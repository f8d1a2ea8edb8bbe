import TemporalSdk.Library.Utf8
import TemporalSdk.Library.Double
import TemporalSdk.Library.MultiplyWithCarry
import TemporalSdk.Library.Transition
import TemporalSdk.Library.EventLog
import TemporalSdk.Library.EventLoop
import TemporalSdk.Library.Keyed
import TemporalSdk.Library.Mailbox
import TemporalSdk.Library.Merge
import TemporalSdk.Library.OrderedMap
import TemporalSdk.Library.LiveMap
import TemporalSdk.Library.Pipeline
import TemporalSdk.Library.Regex
import TemporalSdk.Library.RequestTable
import TemporalSdk.Library.PriorityQueue
import TemporalSdk.Library.Shield
import TemporalSdk.Library.Simulation
import TemporalSdk.Library.TryFinally
import TemporalSdk.Library.DataView
import TemporalSdk.Library.PaddedDigits
import TemporalSdk.Common.Time
import TemporalSdk.Common.Timestamps
import TemporalSdk.Common.RetryPolicyChecks
import TemporalSdk.Common.Failure
import TemporalSdk.Common.Codec
import TemporalSdk.Common.StackTrace
import TemporalSdk.Common.FailureConverter
import TemporalSdk.Common.FailureRoundTrip
import TemporalSdk.Common.EncodedAttributes
import TemporalSdk.Common.Cancellation
import TemporalSdk.Common.FailureAliasing
import TemporalSdk.Common.DataConverter
import TemporalSdk.Common.PayloadConversion
import TemporalSdk.Common.JsonPayloads
import TemporalSdk.Common.Encoding
import TemporalSdk.Common.Decoding
import TemporalSdk.Common.HistoryJson
import TemporalSdk.Worker.ActivityRun
import TemporalSdk.Worker.WorkerOptions
import TemporalSdk.Client.ServerAddress
import TemporalSdk.Client.TaskQueueClient
import TemporalSdk.Worker.CloseableGroupBy
import TemporalSdk.Workflow.Commands
import TemporalSdk.Workflow.Runtime
import TemporalSdk.Workflow.Operations
import TemporalSdk.Workflow.Jobs
import TemporalSdk.Workflow.Frame
import TemporalSdk.Workflow.Respects
import TemporalSdk.Workflow.Settlements
import TemporalSdk.Workflow.Correlation
import TemporalSdk.Workflow.CompletionMaps
import TemporalSdk.Workflow.JobCorrelation
import TemporalSdk.Workflow.LocalActivityRetries
import TemporalSdk.Workflow.CancelCommands
import TemporalSdk.Workflow.TimerLifecycle
import TemporalSdk.Workflow.ScopeTree
import TemporalSdk.Workflow.Signals
import TemporalSdk.Workflow.SignalOrder
import TemporalSdk.Workflow.Patches
import TemporalSdk.Workflow.Activation
import TemporalSdk.Workflow.CommandLog
import TemporalSdk.Workflow.Queries
import TemporalSdk.Workflow.Conditions
import TemporalSdk.Worker.ActivationCodec
import TemporalSdk.Worker.CompletionCodec
import TemporalSdk.Worker.Heartbeat
import TemporalSdk.Worker.HeartbeatCompletion
import TemporalSdk.Worker.HeartbeatCount
import TemporalSdk.Worker.ActivityOperator
import TemporalSdk.Worker.ActivityCompletions
import TemporalSdk.Worker.ActivityGroups
import TemporalSdk.Worker.WorkflowOperator
import TemporalSdk.Worker.OperatorTurns
import TemporalSdk.Worker.OperatorInstances
import TemporalSdk.Worker.OperatorCounters
import TemporalSdk.Worker.Lifecycle
import TemporalSdk.Worker.RunUntil
import TemporalSdk.Worker.ShutdownSignals
import TemporalSdk.Worker.RuntimeShutdown
import TemporalSdk.Worker.WorkerThread
import TemporalSdk.Worker.ThreadPool
import TemporalSdk.Worker.ReusableVM
import TemporalSdk.Worker.DeepFreeze
import TemporalSdk.Worker.Replay
import TemporalSdk.Client.WorkflowResult
import TemporalSdk.Client.WorkflowExecute
import TemporalSdk.Client.ScheduleUpdate
import TemporalSdk.Client.CalendarFields
import TemporalSdk.Client.MapAsyncIterable
import TemporalSdk.Client.GrpcRetry
import TemporalSdk.Client.IntoHistories
import TemporalSdk.Workflow.Uuid4
import TemporalSdk.Workflow.Alea
import TemporalSdk.Workflow.UnblockConditions
import TemporalSdk.Worker.StructuredStackTrace
import TemporalSdk.Worker.PromiseStacks
import TemporalSdk.Worker.SinkCalls
import TemporalSdk.Worker.CoreLogger
import TemporalSdk.Worker.ThreadedWorkflow
import TemporalSdk.Worker.NativeBridge
import TemporalSdk.Worker.CodecTransparency
