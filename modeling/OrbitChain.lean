import OrbitChain.Foundations.ExceptSteps
import OrbitChain.Foundations.TransitionRuns
import OrbitChain.Foundations.RunProjections
import OrbitChain.Foundations.Callbacks
import OrbitChain.Foundations.MachineIntegers
import OrbitChain.Foundations.TokenLedger
import OrbitChain.Foundations.ProportionalShares
import OrbitChain.Foundations.ProportionalBacking
import OrbitChain.Foundations.CumulativeTargets
import OrbitChain.Foundations.SuccessivePayments
import OrbitChain.Foundations.PledgeBook
import OrbitChain.Foundations.KeyedWrites
import OrbitChain.Foundations.KeyedTallies
import OrbitChain.Campaign.Types
import OrbitChain.Foundations.ExpiringStore
import OrbitChain.Campaign.Storage
import OrbitChain.Campaign.HostStorage
import OrbitChain.Campaign.StorageClients
import OrbitChain.Campaign.Lifetimes
import OrbitChain.Campaign.Host
import OrbitChain.Campaign.Validation
import OrbitChain.Campaign.Reports
import OrbitChain.Campaign.Initialization
import OrbitChain.Campaign.Donation
import OrbitChain.Campaign.Refund
import OrbitChain.Campaign.MilestoneRelease
import OrbitChain.Campaign.MultiAssetRelease
import OrbitChain.Campaign.Lifecycle
import OrbitChain.Campaign.Contract
import OrbitChain.Campaign.Unlocking
import OrbitChain.Campaign.Invariants
import OrbitChain.Campaign.DonorAccounting
import OrbitChain.Campaign.MilestoneOrder
import OrbitChain.Campaign.Settlement
import OrbitChain.Campaign.Custody
import OrbitChain.Campaign.RefundBound
import OrbitChain.Campaign.ReleaseShares
import OrbitChain.Campaign.IncrementalPayout
import OrbitChain.Campaign.FullPayout
import OrbitChain.Campaign.RefundOrders
import OrbitChain.Campaign.RefundFairness
import OrbitChain.Campaign.Backing
import OrbitChain.Campaign.Solvency
import OrbitChain.Campaign.Administration
import OrbitChain.Campaign.Freezing
import OrbitChain.Campaign.StatusTransitions
import OrbitChain.Campaign.RefundPolicy
import OrbitChain.Campaign.RefundWindow
import OrbitChain.Campaign.MilestoneSchedule
import OrbitChain.Campaign.ReleaseGating
import OrbitChain.Campaign.ReportCache
import OrbitChain.Campaign.Authorization
import OrbitChain.Campaign.NestedCalls
import OrbitChain.Campaign.Reentrancy
import OrbitChain.Campaign.ReleaseAgreement
import OrbitChain.Campaign.MilestoneMap
import OrbitChain.Campaign.DonationDeadline
import OrbitChain.Campaign.ReleaseBounds
import OrbitChain.Campaign.PaidRelease
import OrbitChain.Campaign.BatchedUnlock
import OrbitChain.Campaign.MilestoneRecords
import OrbitChain.Campaign.StatusCoherence
import OrbitChain.Campaign.RefundMarks
import OrbitChain.Campaign.DonationOrder
import OrbitChain.Campaign.AssetBlocking
import OrbitChain.Campaign.AssetGuards
import OrbitChain.Core.Types
import OrbitChain.Core.Contract
import OrbitChain.Core.Steps
import OrbitChain.Core.Identity
import OrbitChain.Core.Accounting
import OrbitChain.Core.Withdrawals
import OrbitChain.Core.Reports
import OrbitChain.Core.HistoryPages
import OrbitChain.Core.Dashboard
import OrbitChain.Campaign.ReportArithmetic
import OrbitChain.Campaign.RefundArithmetic
import OrbitChain.Campaign.Counters
import OrbitChain.Campaign.EventLog
import OrbitChain.Campaign.MilestoneViews
import OrbitChain.Campaign.Deadlines
import OrbitChain.Campaign.Analytics
import OrbitChain.BatchDonor.Contract
import OrbitChain.BatchDonor.Modes
import OrbitChain.Foundations.DigitRegrouping
import OrbitChain.Foundations.ShiftRegisters
import OrbitChain.Foundations.ItemLoops
import OrbitChain.Foundations.TextLines
import OrbitChain.Foundations.TextParts
import OrbitChain.Foundations.FormEncoding
import OrbitChain.Foundations.UrlParts
import OrbitChain.Foundations.CaseConversion
import OrbitChain.Foundations.KeyRenaming
import OrbitChain.Tools.TextFiles
import OrbitChain.Tools.AuditLog
import OrbitChain.Tools.AuditRecovery
import OrbitChain.Tools.Strkey
import OrbitChain.Tools.StrkeyRoundTrip
import OrbitChain.Tools.StrkeyErrors
import OrbitChain.Tools.ServerSigning
import OrbitChain.Tools.KeyManager
import OrbitChain.Tools.SignedRequests
import OrbitChain.Tools.Vault
import OrbitChain.Tools.VaultLines
import OrbitChain.Tools.VaultFile
import OrbitChain.Tools.Deploy
import OrbitChain.Tools.DeployGrammar
import OrbitChain.Tools.DeployRuns
import OrbitChain.Tools.Invoke
import OrbitChain.Tools.InvokeRequests
import OrbitChain.WalletConnect.Session
import OrbitChain.WalletConnect.SessionSteps
import OrbitChain.WalletConnect.SessionConsistency
import OrbitChain.WalletConnect.MobileReturn
import OrbitChain.Campaign.LockUp
import OrbitChain.Campaign.LedgerDonation
import OrbitChain.Platform.System
import OrbitChain.Platform.Projection
import OrbitChain.Platform.Batches
import OrbitChain.Campaign.Entrypoints
import OrbitChain.Campaign.ContractLedger
import OrbitChain.Campaign.Restoration
