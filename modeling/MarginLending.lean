import MarginLending.Account
import MarginLending.AccountTable
import MarginLending.Asset
import MarginLending.Book.Accrual
import MarginLending.Book.Balances
import MarginLending.Book.Basic
import MarginLending.Book.Ranking
import MarginLending.Book.Valuation
import MarginLending.Call
import MarginLending.Decimal.Arithmetic
import MarginLending.Decimal.Basic
import MarginLending.Decimal.Binary64
import MarginLending.Decimal.Text
import MarginLending.Emergency
import MarginLending.Error
import MarginLending.Event
import MarginLending.Fixed.Amount
import MarginLending.Fixed.Conversion
import MarginLending.Fixed.Growth
import MarginLending.Fixed.Q96
import MarginLending.Heap
import MarginLending.Json.Basic
import MarginLending.Json.Fields
import MarginLending.Json.Numeral
import MarginLending.Json.Reader
import MarginLending.Ledger
import MarginLending.Main
import MarginLending.Parameters
import MarginLending.Pool.Basic
import MarginLending.Pool.Execute
import MarginLending.Pool.Freeze
import MarginLending.Pool.Liquidation
import MarginLending.Pool.Takeover
import MarginLending.Pool.Trade
import MarginLending.Pool.Transfer
import MarginLending.Pool.Unchecked
import MarginLending.Position
import MarginLending.Proofs.Actions
import MarginLending.Proofs.Book.Backing
import MarginLending.Proofs.Book.Bookings
import MarginLending.Proofs.Book.Changes
import MarginLending.Proofs.Book.Compounding
import MarginLending.Proofs.Book.Consistency
import MarginLending.Proofs.Book.Debts
import MarginLending.Proofs.Book.Deeds
import MarginLending.Proofs.Book.Entries
import MarginLending.Proofs.Book.Excess
import MarginLending.Proofs.Book.Exits
import MarginLending.Proofs.Book.Faults
import MarginLending.Proofs.Book.Fields
import MarginLending.Proofs.Book.Growth
import MarginLending.Proofs.Book.Income
import MarginLending.Proofs.Book.Isolation
import MarginLending.Proofs.Book.Lenders
import MarginLending.Proofs.Book.Leverage
import MarginLending.Proofs.Book.Overflow
import MarginLending.Proofs.Book.Powers
import MarginLending.Proofs.Book.Rates
import MarginLending.Proofs.Book.Rollback
import MarginLending.Proofs.Book.Seats
import MarginLending.Proofs.Book.Standing
import MarginLending.Proofs.Book.StoredLeverage
import MarginLending.Proofs.Book.Surplus
import MarginLending.Proofs.Book.Tokens
import MarginLending.Proofs.Book.Writes
import MarginLending.Proofs.Claims
import MarginLending.Proofs.Conversion
import MarginLending.Proofs.Failures
import MarginLending.Proofs.Faults
import MarginLending.Proofs.Fixed
import MarginLending.Proofs.Heap.History
import MarginLending.Proofs.Heap.Journal
import MarginLending.Proofs.Heap.Nodes
import MarginLending.Proofs.Heap.Order
import MarginLending.Proofs.Heap.Rollback
import MarginLending.Proofs.Heap.Slots
import MarginLending.Proofs.Json.Reader
import MarginLending.Proofs.Ledger
import MarginLending.Proofs.Pool.Atomicity
import MarginLending.Proofs.Pool.Backing
import MarginLending.Proofs.Pool.Bookings
import MarginLending.Proofs.Pool.Bounds
import MarginLending.Proofs.Pool.Calls
import MarginLending.Proofs.Pool.Closing
import MarginLending.Proofs.Pool.Consistency
import MarginLending.Proofs.Pool.Cuts
import MarginLending.Proofs.Pool.Debts
import MarginLending.Proofs.Pool.Deeds
import MarginLending.Proofs.Pool.Entries
import MarginLending.Proofs.Pool.Exits
import MarginLending.Proofs.Pool.Faults
import MarginLending.Proofs.Pool.Growth
import MarginLending.Proofs.Pool.Guarantees
import MarginLending.Proofs.Pool.Invariants
import MarginLending.Proofs.Pool.Isolation
import MarginLending.Proofs.Pool.Lenders
import MarginLending.Proofs.Pool.Limits
import MarginLending.Proofs.Pool.Liquidations
import MarginLending.Proofs.Pool.MarginCalls
import MarginLending.Proofs.Pool.Operations
import MarginLending.Proofs.Pool.Passes
import MarginLending.Proofs.Pool.PriceLimits
import MarginLending.Proofs.Pool.Rates
import MarginLending.Proofs.Pool.Reachable
import MarginLending.Proofs.Pool.Recording
import MarginLending.Proofs.Pool.Runs
import MarginLending.Proofs.Pool.Solvency
import MarginLending.Proofs.Pool.StoredLeverage
import MarginLending.Proofs.Pool.Surplus
import MarginLending.Proofs.Pool.Takeovers
import MarginLending.Proofs.Pool.Tokens
import MarginLending.Proofs.Pool.Totals
import MarginLending.Proofs.Pool.Trades
import MarginLending.Proofs.Pool.Trips
import MarginLending.Proofs.Pool.Unchecked
import MarginLending.Proofs.Pool.Wrapping
import MarginLending.Proofs.Pool.Writes
import MarginLending.Proofs.Requests
import MarginLending.Proofs.Standing
import MarginLending.Proofs.Tables
import MarginLending.Proofs.Text.Digits
import MarginLending.Proofs.Text.Scalars
import MarginLending.Proofs.Wire.RoundTrip
import MarginLending.Simulation
import MarginLending.Text.Digits
import MarginLending.Text.HexWord
import MarginLending.Timestamp
import MarginLending.Venue.Basic
import MarginLending.Venue.Simulated
import MarginLending.Wire.Call
import MarginLending.Wire.Event
import MarginLending.Wire.Parameters
import MarginLending.Wire.Position
import MarginLending.Wire.Scalar
