import SmlMcps.Library.Runs
import SmlMcps.Library.KeyedTable
import SmlMcps.Library.Incremental
import SmlMcps.Library.Marks
import SmlMcps.Tasks
import SmlMcps.SessionDeletion
import SmlMcps.SessionRetention
import SmlMcps.SessionRefinement
import SmlMcps.SessionMerge
import SmlMcps.TaskWorker
import SmlMcps.TaskEquivalence
import SmlMcps.TaskOrphans
import SmlMcps.LoopOrder
import SmlMcps.LoopMalformed
import SmlMcps.LineReader
import SmlMcps.LineFraming
import SmlMcps.LineLimits
import SmlMcps.HttpAnswers
import SmlMcps.PageBounds
import SmlMcps.PageWalk
import SmlMcps.LoopQuestions
import SmlMcps.LoopCancellation
import SmlMcps.Http1Wire
import SmlMcps.Http1Plain
import SmlMcps.Http1Connection
import SmlMcps.Http1Passes
import SmlMcps.Http1Budget
import SmlMcps.Http1Chunked
import SmlMcps.Http1HeadCuts
import SmlMcps.TaskLifecycle
import SmlMcps.TaskCapacity
import SmlMcps.Library.Listing
import SmlMcps.Library.Decimal
import SmlMcps.TaskListing
import SmlMcps.TaskIsolation
import SmlMcps.TaskBound
import SmlMcps.LoopThreads
import SmlMcps.LoopAnnouncement
import SmlMcps.Auth
import SmlMcps.HttpTasks
import SmlMcps.SessionTasks
import SmlMcps.IdentityIsolation
import SmlMcps.Timestamps
import SmlMcps.TaskOrder
import SmlMcps.TaskWalk
import SmlMcps.JsonRpcCodec
import SmlMcps.Bridge
import SmlMcps.BridgeTransform
import SmlMcps.BridgeDownstream
import SmlMcps.DaemonState
import SmlMcps.DaemonAccounting
import SmlMcps.IdleWatcher
import SmlMcps.SocketState
import SmlMcps.SocketOwnership
import SmlMcps.PidFile
import SmlMcps.BrokerDelivery
import SmlMcps.BrokerDiscards
import SmlMcps.BrokerIssued
import SmlMcps.InitializationGate
import SmlMcps.SessionHandshake
import SmlMcps.QuestionEndings
import SmlMcps.QuestionTracking
import SmlMcps.QuestionCleanup
import SmlMcps.Library.IpAddr
import SmlMcps.Library.QuotedParams
import SmlMcps.Origin
import SmlMcps.OriginSoundness
import SmlMcps.RequestTarget
import SmlMcps.ResourceUri
import SmlMcps.AuthChallenge
import SmlMcps.Library.Checks
import SmlMcps.Sampling
import SmlMcps.ElicitSchema
import SmlMcps.Library.Utf8
import SmlMcps.Http1Responses
import SmlMcps.HttpTransport
import SmlMcps.ConfigFiles
import SmlMcps.JsonClient
import SmlMcps.Library.IndexMap
import SmlMcps.CodexClient
import SmlMcps.Library.CrashLogic
import SmlMcps.StagedWrite
import SmlMcps.Library.Calendar
import SmlMcps.CivilDates
import SmlMcps.HarnessArgs
import SmlMcps.Library.Flags
import SmlMcps.Library.Progress
import SmlMcps.Library.Simulation
import SmlMcps.Library.Histories
import SmlMcps.Library.Independence
import SmlMcps.Library.SharedSink
import SmlMcps.DaemonShutdown
import SmlMcps.DaemonReturn
import SmlMcps.HttpEndpoint
import SmlMcps.HttpAuthority
import SmlMcps.ToolEnv
import SmlMcps.CapabilityGate
import SmlMcps.InstallCommands
import SmlMcps.InstallIsolation
import SmlMcps.InstallSettles
import SmlMcps.CliDispatch
import SmlMcps.CliRefusals
import SmlMcps.DaemonLaunch
import SmlMcps.WireIntact
import SmlMcps.HttpListener
import SmlMcps.HttpAcceptLoop
import SmlMcps.SocketRecovery
import SmlMcps.HealthProbe
import SmlMcps.HealthSession
