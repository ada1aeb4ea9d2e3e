import AiAnalytics.App.Bedrock.Proof.AllowanceBound
import AiAnalytics.App.Capture.Proof.CapturedLines
import AiAnalytics.App.Capture.Proof.HiddenContent
import AiAnalytics.App.Events.Proof.EventCodecs
import AiAnalytics.App.Events.Proof.ResumedStream
import AiAnalytics.App.Events.Proof.StreamEnds
import AiAnalytics.App.Jobs.Proof.JobEnds
import AiAnalytics.App.Jobs.Proof.StatusRegression
import AiAnalytics.App.Jobs.Proof.StrandedJobs
import AiAnalytics.App.Llm.Proof.BrokenStream
import AiAnalytics.App.Llm.Proof.GrowingPrefix
import AiAnalytics.App.Llm.Proof.SplitChunks
import AiAnalytics.App.Llm.Proof.StreamedDeltas
import AiAnalytics.App.McpClient.Proof.EnvelopeSurvival
import AiAnalytics.App.McpClient.Proof.Idempotence
import AiAnalytics.App.ModelPolicy.Proof.BilledUsage
import AiAnalytics.App.ModelPolicy.Proof.BudgetBounds
import AiAnalytics.App.Orchestration.Proof.CallCosts
import AiAnalytics.App.Orchestration.Proof.CallLimits
import AiAnalytics.App.Orchestration.Proof.CapSearch
import AiAnalytics.App.Orchestration.Proof.DeclinedProposals
import AiAnalytics.App.Orchestration.Proof.HistoryTurns
import AiAnalytics.App.Orchestration.Proof.IncreasingEvents
import AiAnalytics.App.Orchestration.Proof.LateCallbacks
import AiAnalytics.App.Orchestration.Proof.RunCharges
import AiAnalytics.App.Orchestration.Proof.SimpleTools
import AiAnalytics.App.Orchestration.Proof.StepNumbers
import AiAnalytics.App.Orchestration.Proof.TerminalLoop
import AiAnalytics.App.Orchestration.Proof.TerminalRun
import AiAnalytics.App.Orchestration.Proof.TokenLedger
import AiAnalytics.App.Orchestration.Proof.TrackerRecords
import AiAnalytics.App.Orchestration.Proof.UniqueNumbers
import AiAnalytics.App.Orchestration.Proof.UntrustedBlocks
import AiAnalytics.App.State.Proof.CodecLossless
import AiAnalytics.App.State.Proof.MessageStores
import AiAnalytics.App.State.Proof.RunCreation
import AiAnalytics.App.Validation.Proof.PreflightAggregate
import AiAnalytics.App.Validation.Proof.PreflightCompare
import AiAnalytics.App.Validation.Proof.UnsupportedFigures
import AiAnalytics.Benchmarks.Proof.FirstToken
import AiAnalytics.Benchmarks.Proof.WindowDeltas
import AiAnalytics.Dataset.Proof.AggregateOrder
import AiAnalytics.Dataset.Proof.CompiledAlignment
import AiAnalytics.Dataset.Proof.HonestEnvelopes
import AiAnalytics.Evals.Proof.AppendedReviews
import AiAnalytics.Evals.Proof.ToolMatching
import AiAnalytics.Experiments.BundleDigest
import AiAnalytics.Experiments.Proof.LikeForLike
import AiAnalytics.Experiments.Proof.LimiterOrder
import AiAnalytics.Gateway.Proof.ConnectorParams
import AiAnalytics.Gateway.Proof.ExperimentHeaders
import AiAnalytics.Gateway.Proof.OccupiedBound
import AiAnalytics.Gateway.Proof.Placeability
import AiAnalytics.Gateway.Proof.QueueBounds
import AiAnalytics.Gateway.Proof.QueueSlots
import AiAnalytics.Gateway.Proof.RampCap
import AiAnalytics.Gateway.Proof.ServedRequests
import AiAnalytics.Gateway.Proof.ServingReleases
import AiAnalytics.Gateway.Proof.StarvationBound
import AiAnalytics.Gateway.Proof.TenantWindow
import AiAnalytics.KvTransfer.Proof.ConsumptionEvidence
import AiAnalytics.KvTransfer.Proof.DirectoryAccounts
import AiAnalytics.KvTransfer.Proof.EvidenceRuns
import AiAnalytics.KvTransfer.Proof.PrefixIdentity
import AiAnalytics.Web.Proof.FormOwners
import AiAnalytics.App.Orchestration.Proof.AsideFrames
import AiAnalytics.App.Orchestration.Proof.Transcript
import AiAnalytics.Web.Proof.EarlyGrants
