import FairyClaw.Foundation.Machine
import FairyClaw.Foundation.Python
import FairyClaw.Foundation.Fallible
import FairyClaw.Foundation.SerialQueue
import FairyClaw.Foundation.Exchange
import FairyClaw.Events.RuntimeEvent
import FairyClaw.Foundation.Token
import FairyClaw.Events.Bus
import FairyClaw.Events.BusOrder
import FairyClaw.Events.Scheduler
import FairyClaw.Events.Wakeup
import FairyClaw.Session.GlobalState
import FairyClaw.Session.Batches
import FairyClaw.Session.BatchRuns
import FairyClaw.Planning.SubtaskCoordinator
import FairyClaw.Planning.Barrier
import FairyClaw.Planning.BarrierOnce
import FairyClaw.Planning.BarrierKept
import FairyClaw.Planning.BarrierConditions
import FairyClaw.Planning.Turn
import FairyClaw.Planning.TurnReopened
import FairyClaw.Planning.TurnMessages
import FairyClaw.Planning.TurnProgress
import FairyClaw.Planning.TurnKilled
import FairyClaw.Hooks.Runtime
import FairyClaw.Hooks.DeliverableContract
import FairyClaw.Hooks.CodeRepair
import FairyClaw.Hooks.ForcedFinish
import FairyClaw.Foundation.Decimal
import FairyClaw.Foundation.JsonText
import FairyClaw.Foundation.Slices
import FairyClaw.Foundation.Base64
import FairyClaw.Context.HistoryIr
import FairyClaw.Context.Assembler
import FairyClaw.Context.AssemblerLossless
import FairyClaw.Foundation.Runs
import FairyClaw.Context.TurnBoundaries
import FairyClaw.Session.Memory
import FairyClaw.Compression.ContextCompression
import FairyClaw.Compression.ExecuteHook
import FairyClaw.Foundation.Subsequence
import FairyClaw.Compression.Protected
import FairyClaw.Compression.UnloadedSegments
import FairyClaw.Compression.Unloadings
import FairyClaw.Compression.Reloadable
import FairyClaw.Compression.Exhausted
import FairyClaw.Context.BeforeLlmCall
import FairyClaw.Context.DelegatedTask
import FairyClaw.Foundation.RecentSet
import FairyClaw.Foundation.ActivityLog
import FairyClaw.Bridge.Inbound
import FairyClaw.Bridge.InboundOnce
import FairyClaw.Bridge.InboundOrder
import FairyClaw.Bridge.Outbound
import FairyClaw.Bridge.OutboundOnce
import FairyClaw.Bridge.OutboundOrder
import FairyClaw.Bridge.Backlog
import FairyClaw.Hooks.ContractCheck
import FairyClaw.Planning.ContractTurn
import FairyClaw.Events.Mailbox
import FairyClaw.Events.ExplicitWakeup
import FairyClaw.Events.Idle
import FairyClaw.Timer.Cron
import FairyClaw.Timer.TimerStore
import FairyClaw.Timer.Lifecycle
import FairyClaw.Timer.Bounds
import FairyClaw.Timer.Claims
import FairyClaw.Events.BusRestart
import FairyClaw.Bridge.HandleFrame
import FairyClaw.Bridge.Authentication
import FairyClaw.Foundation.Archive
import FairyClaw.Foundation.Faults
import FairyClaw.Planning.TurnCourse
import FairyClaw.Planning.Deliveries
import FairyClaw.Bridge.FileService
import FairyClaw.Bridge.FileFrames
import FairyClaw.Bridge.Upload
import FairyClaw.Bridge.UploadReturns
import FairyClaw.Bridge.Download
import FairyClaw.Bridge.DownloadReturns
import FairyClaw.Bridge.ClientCalls
import FairyClaw.Bridge.ClientPending
import FairyClaw.Bridge.ClientWaiters
import FairyClaw.Session.StatusAgreement
import FairyClaw.Session.MetaWriters
import FairyClaw.Timer.TickAccounts
import FairyClaw.Timer.TickWindow
import FairyClaw.Foundation.Table
import FairyClaw.Gateway.Onebot
import FairyClaw.Gateway.OnebotIsolation
import FairyClaw.Config.EnvFile
import FairyClaw.Config.SystemEnv
import FairyClaw.Foundation.Maintained
import FairyClaw.Planning.Capabilities
import FairyClaw.Planning.ToolVisibility
import FairyClaw.Foundation.Spans
import FairyClaw.Session.GapRepair
import FairyClaw.Session.GapRepairCoverage
import FairyClaw.Foundation.Feed
import FairyClaw.Gateway.WebGateway
import FairyClaw.Gateway.WebPushOnce
import FairyClaw.Gateway.BrokenSocket
import FairyClaw.Events.Preferences
import FairyClaw.Planning.HookVisibility
import FairyClaw.Planning.StagedTurn
import FairyClaw.Hooks.StageFold
import FairyClaw.Planning.FailedStages
import FairyClaw.Planning.CallRuns
import FairyClaw.Planning.StoredResult
import FairyClaw.Planning.TokenAccounts
import FairyClaw.Compression.ReloadTool
import FairyClaw.Session.MessageSubtask
import FairyClaw.Hooks.MemoryExtraction
import FairyClaw.Foundation.JsonGrammar
import FairyClaw.Compression.WellFormedCalls
import FairyClaw.Compression.DueUnloadings
import FairyClaw.Compression.ReloadGuard
import FairyClaw.Bridge.RecentFrames
import FairyClaw.Foundation.Walks
import FairyClaw.Gateway.RouteWalks
import FairyClaw.Foundation.LineEnds
import FairyClaw.Config.EnvEdit
import FairyClaw.Config.EnvMerge
import FairyClaw.Session.ContractStorage
import FairyClaw.Gateway.Protocol
import FairyClaw.Foundation.Checks
import FairyClaw.Timer.CronItems
import FairyClaw.Foundation.Recurrence
import FairyClaw.Timer.Calendar
import FairyClaw.Timer.CronNext
import FairyClaw.Timer.CronStandard
import FairyClaw.Foundation.Edits
import FairyClaw.Repair.UnifiedPatch
import FairyClaw.Repair.PatchPlaces
import FairyClaw.Foundation.LinkPaths
import FairyClaw.Foundation.FileTree
import FairyClaw.Files.SafePath
import FairyClaw.Files.Tools
import FairyClaw.Files.Confinement
import FairyClaw.Files.ReadBack
import FairyClaw.Repair.Tools
import FairyClaw.Repair.Workflow
import FairyClaw.Foundation.Scan
import FairyClaw.Gateway.OnebotSegments
import FairyClaw.Llm.Dsml
import FairyClaw.Foundation.Retries
import FairyClaw.Llm.Client
import FairyClaw.Config.CapabilityPolicy
import FairyClaw.Bridge.UploadTexts
