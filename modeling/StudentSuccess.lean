import StudentSuccess.PyValue
import StudentSuccess.Runs
import StudentSuccess.OnceGate
import StudentSuccess.Table
import StudentSuccess.StateMachine
import StudentSuccess.Models
import StudentSuccess.Transactions
import StudentSuccess.KeyStores
import StudentSuccess.Repository
import StudentSuccess.HistoryTransactions
import StudentSuccess.ManualAction
import StudentSuccess.RouterHelpers
import StudentSuccess.Webhook
import StudentSuccess.Ledger
import StudentSuccess.Audit
import StudentSuccess.ExactlyOnce
import StudentSuccess.ReadCheckWrite
import StudentSuccess.ConcurrentHandlers
import StudentSuccess.Outreach
import StudentSuccess.GhlTransport
import StudentSuccess.Worker
import StudentSuccess.Containment
import StudentSuccess.Advisory
import StudentSuccess.RuleChain
import StudentSuccess.Eligibility
import StudentSuccess.LiveOutreach
import StudentSuccess.LiveCandidacy
import StudentSuccess.ChannelSelector
import StudentSuccess.DecisionEngine
import StudentSuccess.LiveDelivery
import StudentSuccess.DecisionAuthority
import StudentSuccess.Phase12Gate
import StudentSuccess.ReplayContainment
import StudentSuccess.Calendar
import StudentSuccess.Platform
import StudentSuccess.ReportContent
import StudentSuccess.Warehouse
import StudentSuccess.Snapshot
import StudentSuccess.Narratives
import StudentSuccess.ReportHelpers
import StudentSuccess.Report
import StudentSuccess.WarehouseRuns
import StudentSuccess.FinalizedRows
import StudentSuccess.PublishedReports
import StudentSuccess.Reproducibility
import StudentSuccess.MonthCapture
import StudentSuccess.SnapshotUniqueness
import StudentSuccess.Alerts
import StudentSuccess.Sync
import StudentSuccess.Timeline
import StudentSuccess.IdempotencyKeys
import StudentSuccess.StudentDetail
import StudentSuccess.AttributionMiddleware
import StudentSuccess.RequestAttribution
import StudentSuccess.RiskEngines
import StudentSuccess.AiTiers
import StudentSuccess.EligibilityVerdict
import StudentSuccess.AiAdvisory
import StudentSuccess.DecisionVerdict
import StudentSuccess.AiInfluence
import StudentSuccess.BatchCycle
import StudentSuccess.ShadowBisimulation
import StudentSuccess.ThresholdHonesty
import StudentSuccess.CeilingChecks
import StudentSuccess.AttemptCeiling
import StudentSuccess.NumericThresholds
import StudentSuccess.MalformedThresholds
import StudentSuccess.MalformedChannel
import StudentSuccess.Lineage
import StudentSuccess.ExecutionTypes
import StudentSuccess.GateComposition
import StudentSuccess.WorkerScope
import StudentSuccess.ChannelPartition
import StudentSuccess.BalanceAgreement
import StudentSuccess.MonthlyCoverage
import StudentSuccess.ResponseCounts
import StudentSuccess.NarrativeGeneration
import StudentSuccess.NarrativeMonths
import StudentSuccess.Pagination
import StudentSuccess.WorkQueue
import StudentSuccess.QueueConsistency
import StudentSuccess.LifecycleTabs
import StudentSuccess.SegmentAgreement
import StudentSuccess.RuleCodes
import StudentSuccess.ExclusionWindow
import StudentSuccess.AdvisorySignal
import StudentSuccess.InsightFinalization
import StudentSuccess.RiskMonotone
import StudentSuccess.BatchConservation
import StudentSuccess.DecisionList
import StudentSuccess.AlertSeverity
import StudentSuccess.AiFreshness
import StudentSuccess.AlertFlags
import StudentSuccess.Dashboard
import StudentSuccess.FinancialViews
import StudentSuccess.NarrativePrompt
import StudentSuccess.IsoText
import StudentSuccess.StudentTimeline
import StudentSuccess.Fills
import StudentSuccess.GhlMessages
import StudentSuccess.CivilDate
import StudentSuccess.FiredWindows
import StudentSuccess.SchedulerCycles
import StudentSuccess.ScheduledJobs
import StudentSuccess.InsightCache
import StudentSuccess.Upserts
import StudentSuccess.MirrorSyncs
import StudentSuccess.MentorAgreement
import StudentSuccess.Sessions
import StudentSuccess.CampaignSync
import StudentSuccess.KeyedImports
import StudentSuccess.RetoolImport
import StudentSuccess.RetoolRuns
import StudentSuccess.LastMatch
import StudentSuccess.PaymentPlans
import StudentSuccess.MirrorFrame
import StudentSuccess.PlanJoin
import StudentSuccess.PlanSafety
import StudentSuccess.NarrativeReplies
import StudentSuccess.NarrativeBatch
import StudentSuccess.NarrativeRefinement
import StudentSuccess.Rankings
import StudentSuccess.ChannelRanking
import StudentSuccess.ChannelDirection
import StudentSuccess.ShadowCampaign
import StudentSuccess.CampaignCertification
import StudentSuccess.EngagementReadings
import StudentSuccess.Streaks
import StudentSuccess.SegmentTenure
import StudentSuccess.DisplayScores
import StudentSuccess.RelativeFields
import StudentSuccess.ResponseIntervals
import StudentSuccess.KeyTexts
import StudentSuccess.UniqueInserts
import StudentSuccess.ConcurrentAssembly
import StudentSuccess.Bootstrap
import StudentSuccess.Startup
import StudentSuccess.InsightLifecycle
import StudentSuccess.CampaignRunner
import StudentSuccess.ReportRegister
import StudentSuccess.FrozenSections
import StudentSuccess.MessageSyncs
import StudentSuccess.ConfigActivation
import StudentSuccess.OperatorTabs
import StudentSuccess.DailySync
