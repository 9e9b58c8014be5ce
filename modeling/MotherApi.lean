import MotherApi.Lib.Runs
import MotherApi.Lib.Fallible
import MotherApi.Lib.Checked
import MotherApi.Lib.Splits
import MotherApi.Lib.Utf8
import MotherApi.Lib.Hex
import MotherApi.Lib.Numerals
import MotherApi.Lib.Calendar
import MotherApi.Lib.Fractions
import MotherApi.Lib.Drawdowns
import MotherApi.Lib.DecimalLiterals
import MotherApi.Lib.Tables
import MotherApi.Lib.Groups
import MotherApi.Lib.Transactions
import MotherApi.Lib.TransactionTimes
import MotherApi.Lib.Distinct
import MotherApi.Lib.JsonTrees
import MotherApi.Lib.Handlers
import MotherApi.Strings
import MotherApi.MinuteLimiter
import MotherApi.Capabilities
import MotherApi.CapabilityDoors
import MotherApi.RequestAdmission
import MotherApi.UsageAccounting
import MotherApi.QuotaAdmission
import MotherApi.Registry
import MotherApi.RegistryValidation
import MotherApi.RegistryIndexes
import MotherApi.RegistryAnswers
import MotherApi.Decimal
import MotherApi.DecimalSums
import MotherApi.DecimalProducts
import MotherApi.BalanceCommand
import MotherApi.BalanceTargets
import MotherApi.TokenSelectors
import MotherApi.BalancePlan
import MotherApi.SimulationTime
import MotherApi.Rfc3339
import MotherApi.CivilDays
import MotherApi.Timestamps
import MotherApi.Rfc3339Bytes
import MotherApi.SimulationTexts
import MotherApi.SimulationDates
import MotherApi.SimulationWindows
import MotherApi.BalanceResponse
import MotherApi.PlanSafety
import MotherApi.HistoricalEvidence
import MotherApi.BalanceService
import MotherApi.BalanceAttribution
import MotherApi.Portfolio
import MotherApi.PortfolioComposition
import MotherApi.PortfolioCoverage
import MotherApi.PortfolioPlan
import MotherApi.PlannerOrder
import MotherApi.PortfolioSummary
import MotherApi.PortfolioTotals
import MotherApi.BlockResolver
import MotherApi.BlockSafety
import MotherApi.SimulationEvidence
import MotherApi.Simulation
import MotherApi.SimulationOutcomes
import MotherApi.SimulationSafety
import MotherApi.SimulationDrawdown
import MotherApi.CanonicalDecimals
import MotherApi.AaveYields
import MotherApi.Workspaces
import MotherApi.WorkspaceCommits
import MotherApi.WorkspaceMembers
import MotherApi.WorkspaceLabels
import MotherApi.WorkspaceArchive
import MotherApi.ActivityPages
import MotherApi.WorkspaceTimeline
import MotherApi.BrowserSessions
import MotherApi.SessionLifecycle
import MotherApi.ApiKeyTexts
import MotherApi.ApiKeys
import MotherApi.ApiKeyInvariants
import MotherApi.ApiKeyLifecycle
import MotherApi.ApiKeyAccess
import MotherApi.StrictPrices
import MotherApi.LatestPrices
import MotherApi.UsdQuotes
import MotherApi.BalancePresenter
import MotherApi.TreasurySnapshots
import MotherApi.AssetLookup
import MotherApi.TransferSearch
import MotherApi.OnchainWindows
import MotherApi.DecimalAmounts
import MotherApi.TransferFilters
import MotherApi.TransferEvidence
import MotherApi.CanonicalJson
import MotherApi.AsyncReports
import MotherApi.ReportLifecycle
import MotherApi.ReportIdempotency
import MotherApi.ReportFailures
import MotherApi.ServiceTokens
import MotherApi.BalanceRequests
import MotherApi.VerifiedProtocols
import MotherApi.RealizedYields
import MotherApi.BalanceCompletion
import MotherApi.BalanceEndpoints
