import Settlement.Checks
import Settlement.Json.Reader
import Settlement.Json.Reports
import Settlement.Json.Text
import Settlement.Run.Basic
import Settlement.Samples
import Settlement.Settings.Environment
import Settlement.Store.StandIn
import Settlement.Proofs.Balances
import Settlement.Proofs.Reconciliation
import Settlement.Proofs.Booking
import Settlement.Proofs.Maximality
import Settlement.Proofs.Conservation
import Settlement.Proofs.AllOrNothing
import Settlement.Proofs.Exact.Acceptance
import Settlement.Proofs.Safety
import Settlement.Proofs.Exact.Runs
import Settlement.Proofs.Exact.Pools
import Settlement.Proofs.Exact.Exchanges
import Settlement.Proofs.Exact.Alike
import Settlement.Proofs.Exact.Rearranged
import Settlement.Proofs.OrderIndependence
import Settlement.Proofs.Representation
import Settlement.Proofs.Verdicts
import Settlement.Proofs.Interference
import Settlement.Proofs.RoundTrip
import Settlement.Proofs.OverUnder
import Settlement.Proofs.Concessions
import Settlement.Proofs.Optimality
import Settlement.Proofs.Pairings
import Settlement.Proofs.MeansOfPayment
import Settlement.Proofs.Clearance
import Settlement.Proofs.EmptyCandidates
import Settlement.Proofs.Guards
import Settlement.Proofs.Store.Counters
import Settlement.Proofs.ExtraPayment
import Settlement.Proofs.NativePayments
import Settlement.Proofs.Store.Histories
import Settlement.Proofs.BalancedDocuments
import Settlement.Proofs.SharedBalances
import Settlement.Proofs.DraftCurrencies
import Settlement.Proofs.Identification
import Settlement.Proofs.FractionDigits
import Settlement.Proofs.Arithmetic
