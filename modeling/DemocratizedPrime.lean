import DemocratizedPrime.Common.Amounts
import DemocratizedPrime.Common.Error
import DemocratizedPrime.Common.Lifetime
import DemocratizedPrime.Common.Migrate
import DemocratizedPrime.CosmWasm.Bank
import DemocratizedPrime.CosmWasm.Decimal
import DemocratizedPrime.CosmWasm.DecimalText
import DemocratizedPrime.CosmWasm.Handover
import DemocratizedPrime.CosmWasm.Host
import DemocratizedPrime.CosmWasm.Ownable
import DemocratizedPrime.Lib.Growth
import DemocratizedPrime.Lib.LendingBooks
import DemocratizedPrime.Lib.Locality
import DemocratizedPrime.Lib.Paging
import DemocratizedPrime.Lib.Provenance
import DemocratizedPrime.Lib.Replay
import DemocratizedPrime.Lib.Result
import DemocratizedPrime.Lib.Rounding
import DemocratizedPrime.Lib.Run
import DemocratizedPrime.Lib.ShareLedger
import DemocratizedPrime.Lib.TreeMap
import DemocratizedPrime.Lib.Uint
import DemocratizedPrime.Oracle.Agreement
import DemocratizedPrime.Oracle.Contract
import DemocratizedPrime.Oracle.Lifetime
import DemocratizedPrime.Oracle.Pages
import DemocratizedPrime.Oracle.Price
import DemocratizedPrime.Oracle.Publications
import DemocratizedPrime.Oracle.Queries
import DemocratizedPrime.Oracle.Quotation
import DemocratizedPrime.Pool.Accrual
import DemocratizedPrime.Pool.AccrualDust
import DemocratizedPrime.Pool.Books
import DemocratizedPrime.Pool.Contract
import DemocratizedPrime.Pool.Curve
import DemocratizedPrime.Pool.Deployment
import DemocratizedPrime.Pool.Errors
import DemocratizedPrime.Pool.ExactFee
import DemocratizedPrime.Pool.Execute.Borrowing
import DemocratizedPrime.Pool.Execute.Config
import DemocratizedPrime.Pool.Execute.Deficit
import DemocratizedPrime.Pool.Execute.Lending
import DemocratizedPrime.Pool.Execute.Liquidate
import DemocratizedPrime.Pool.Haircut
import DemocratizedPrime.Pool.Holders
import DemocratizedPrime.Pool.Invariants.CashCap
import DemocratizedPrime.Pool.Invariants.CollateralLedger
import DemocratizedPrime.Pool.Invariants.ConfigSafety
import DemocratizedPrime.Pool.Invariants.DebtLedger
import DemocratizedPrime.Pool.Invariants.ImpliedCash
import DemocratizedPrime.Pool.Invariants.InterestTime
import DemocratizedPrime.Pool.Invariants.Ledgers
import DemocratizedPrime.Pool.Invariants.NoUnderflow
import DemocratizedPrime.Pool.Invariants.Solvency
import DemocratizedPrime.Pool.Invariants.Underflow
import DemocratizedPrime.Pool.Lifetime
import DemocratizedPrime.Pool.Migrate
import DemocratizedPrime.Pool.Model
import DemocratizedPrime.Pool.Overflow
import DemocratizedPrime.Pool.Pricing
import DemocratizedPrime.Pool.Query.BorrowerPosition
import DemocratizedPrime.Pool.Query.CollateralRequirements
import DemocratizedPrime.Pool.Query.LiquidationForecast
import DemocratizedPrime.Pool.Query.Reserve
import DemocratizedPrime.Pool.Query.State
import DemocratizedPrime.Pool.Query.Status
import DemocratizedPrime.Pool.Query.Sufficiency
import DemocratizedPrime.Pool.Rates
import DemocratizedPrime.Pool.Records
import DemocratizedPrime.Pool.Replay
import DemocratizedPrime.Pool.Reporting
import DemocratizedPrime.Pool.Response
import DemocratizedPrime.Pool.Safety.Adjustment
import DemocratizedPrime.Pool.Safety.Attributes
import DemocratizedPrime.Pool.Safety.BorrowGates
import DemocratizedPrime.Pool.Safety.Closing
import DemocratizedPrime.Pool.Safety.CommitRules
import DemocratizedPrime.Pool.Safety.Commutation
import DemocratizedPrime.Pool.Safety.Custody
import DemocratizedPrime.Pool.Safety.DebtFreeExit
import DemocratizedPrime.Pool.Safety.DebtGrowth
import DemocratizedPrime.Pool.Safety.DebtPayments
import DemocratizedPrime.Pool.Safety.DirectedSale
import DemocratizedPrime.Pool.Safety.ExitFairness
import DemocratizedPrime.Pool.Safety.FeeBooking
import DemocratizedPrime.Pool.Safety.Health
import DemocratizedPrime.Pool.Safety.Isolation
import DemocratizedPrime.Pool.Safety.LiquidationGates
import DemocratizedPrime.Pool.Safety.LossAllocation
import DemocratizedPrime.Pool.Safety.LossBound
import DemocratizedPrime.Pool.Safety.NoInstantLiquidation
import DemocratizedPrime.Pool.Safety.OwnerGate
import DemocratizedPrime.Pool.Safety.RecordedDebt
import DemocratizedPrime.Pool.Safety.ReserveWithdrawal
import DemocratizedPrime.Pool.Safety.Resolvable
import DemocratizedPrime.Pool.Steps
import DemocratizedPrime.Pool.Storage
import DemocratizedPrime.Pool.Stored
import DemocratizedPrime.Pool.TokenCalls
import DemocratizedPrime.Pool.Validation
import DemocratizedPrime.Pool.World
import DemocratizedPrime.RepoToken.Accounts
import DemocratizedPrime.RepoToken.Balance
import DemocratizedPrime.RepoToken.Containment
import DemocratizedPrime.RepoToken.Ledger
import DemocratizedPrime.RepoToken.Lifetime
import DemocratizedPrime.RepoToken.Token
import DemocratizedPrime.System.Commitment
import DemocratizedPrime.System.Creation
import DemocratizedPrime.System.Halt
import DemocratizedPrime.System.Holders
import DemocratizedPrime.System.InStep
import DemocratizedPrime.System.LenderGains
import DemocratizedPrime.System.LockStep
import DemocratizedPrime.System.Market
import DemocratizedPrime.System.Owners
import DemocratizedPrime.System.PassiveLender
import DemocratizedPrime.System.Permissions
import DemocratizedPrime.System.ReceiptBalance
import DemocratizedPrime.System.Replay
import DemocratizedPrime.System.Transaction
import DemocratizedPrime.System.Upgrades
