import PullConsumer.Ack.Request
import PullConsumer.Ack.SendLock
import PullConsumer.Pull.Request
import PullConsumer.Pull.Response
import PullConsumer.ResponseCode
import PullConsumer.Text.Quoted

/-! # What a consumer does outwardly

Calls of collaborators, counted events and log notices. `Effect` lists them in order of occurrence;
it also holds what the surroundings of a consumer need for a full account of a run: the answers to
calls, and which tasks may go on.
-/

namespace PullConsumer

/-- The counters of a consumer. -/
inductive Metric
  | pullWork
  | pullFail
  | pullMessage
  | ackSend
  | ackSendFail
  | sendBack
deriving DecidableEq

namespace Metric

/-- All counters, in the order in which they are described. -/
def all : List Metric := [.pullWork, .pullFail, .pullMessage, .ackSend, .ackSendFail, .sendBack]

/-- The name under which a counter is recorded. -/
def name : Metric → String
  | .pullWork => "pullq_pull_work_count"
  | .pullFail => "pullq_pull_fail_count"
  | .pullMessage => "pullq_pull_message_count"
  | .ackSend => "pullq_ack_send_count"
  | .ackSendFail => "pullq_ack_send_fail_count"
  | .sendBack => "pullq_send_back_count"

/-- What a counter counts. -/
def description : Metric → String
  | .pullWork => "Total number of pull requests issued by the consumer"
  | .pullFail => "Total number of pull requests that failed at the transport level"
  | .pullMessage => "Total number of messages received in pull responses"
  | .ackSend => "Total number of ack requests accepted by the broker"
  | .ackSendFail => "Total number of ack requests that failed and were kept for retry"
  | .sendBack => "Total number of messages sent back to the broker for redelivery"

/-- What is attempted when a counter is incremented, for the log if the recorder breaks. -/
def context : Metric → String
  | .pullWork => "count pull work"
  | .pullFail => "count pull failure"
  | .pullMessage => "record pulled message count"
  | .ackSend | .ackSendFail | .sendBack => "count ack pipeline event"

end Metric

/-- For whom an event is counted. -/
structure Labels where
  subject : String
  group : String
  broker : Option String
deriving DecidableEq

/-- A call of a collaborator. -/
inductive Call
  | sendAck (brokerGroup : String) (request : AckRequest)
  | sendBack (brokerGroup : String) (message : Message)
  /-- A pull, with the availability of the group at the time of the call. -/
  | pull (request : PullRequest) (available : Bool)
  /-- A request to look up the broker groups of a client of some kind anew. -/
  | refresh {kind : ClientKind} (subject group : String)
  | release (subject group partition brokerGroup : String) (strategy : Strategy)
deriving DecidableEq

/-- What a collaborator answers to a call. -/
inductive Answer (α : Type)
  | value (result : α)
  | failed (fault : Fault)
  /-- The collaborator broke down with a text instead of answering. -/
  | panicked (text : String)
deriving DecidableEq

/-- The task of a collaborator's breakdown in words; the number of the task is left open. -/
def panicReport (text : String) : String :=
  s!"task N panicked with message {Text.quoted text}"

/-- The urgency of a notice. -/
inductive Severity
  | error
  | warn
  | info
  | debug
  | trace
deriving DecidableEq

/-- What a log line is about. -/
inductive Notice
  | queueAlreadyStarted (subject : String)
  | queueAlreadyDestroyed (subject : String)
  | flushTimedOut (subject partition : String) (timeout : Nat)
  | entriesAbandoned (subject partition : String) (entries : Nat) (outcome : DrainOutcome)
  | scheduledFlushAborted (subject partition panic : String)
  | scheduledFlushFailed (subject : String) (remaining failures : Nat)
  | transmissionFailed (subject partition brokerGroup : String) (fault : Fault)
  | sendBackFailed (subject : String) (fault : Fault)
  | rangeSent (subject : String) (last : Int) (entries : Nat)
  | registrationRefused (subject messageId : String) (fault : Fault)
  | messageFiltered (subject messageId : String)
  | deliveredRepeatedly (subject messageId : String) (times : Nat)
  | leaseExpired (subject partition : String)
  | groupUnavailable (brokerGroup : String)
  | lockNotAcquired (subject partition group brokerGroup : String)
  | placeholderDropped (messages : Nat)
  | queueDrained (subject : String) (outcome : DrainOutcome)
  | drainAborted (subject panic : String)
  | offlineFlushIncomplete (subject : String) (outcome : DrainOutcome)
  | offlineFlushAborted (subject panic : String)
  | offlineReleaseFailed (subject : String) (fault : Fault)
  | bestEffortFailed (context : String) (fault : Fault)
  | groupMarkedUnavailable (brokerGroup : String) (failures : UInt32)
  | groupAvailableAgain (brokerGroup : String)
  | timeoutReloaded (subject : String) (timeout : Nat)
deriving DecidableEq

/-- The value of a field of a log line. -/
inductive FieldValue
  | text (value : String)
  | number (value : Int)
deriving DecidableEq

namespace Notice

/-- The urgency of each notice. -/
def severity : Notice → Severity
  | .scheduledFlushAborted .. | .lockNotAcquired .. | .drainAborted .. | .offlineFlushAborted ..
  | .offlineReleaseFailed .. => .error
  | .queueAlreadyStarted .. | .queueAlreadyDestroyed .. | .flushTimedOut .. | .entriesAbandoned ..
  | .transmissionFailed .. | .sendBackFailed .. | .registrationRefused ..
  | .deliveredRepeatedly .. | .placeholderDropped .. | .offlineFlushIncomplete ..
  | .bestEffortFailed .. | .groupMarkedUnavailable .. => .warn
  | .groupAvailableAgain .. | .timeoutReloaded .. => .info
  | .scheduledFlushFailed .. | .leaseExpired .. | .groupUnavailable .. | .queueDrained .. => .debug
  | .rangeSent .. | .messageFiltered .. => .trace

/-- The fixed text of each notice. -/
def text : Notice → String
  | .queueAlreadyStarted .. => "ack send queue already initialized"
  | .queueAlreadyDestroyed .. => "ack send queue already destroyed"
  | .flushTimedOut .. => "ack flush timed out"
  | .entriesAbandoned .. => "ack send queue destroyed with unacknowledged entries"
  | .scheduledFlushAborted .. => "scheduled ack flush aborted"
  | .scheduledFlushFailed .. => "scheduled ack flush failed, backing off"
  | .transmissionFailed .. => "ack transmission failed, entries kept for retry"
  | .sendBackFailed .. => "send back failed, acking the prefix before it"
  | .rangeSent .. => "ack range sent"
  | .registrationRefused .. => "dropping message that cannot be registered for ack"
  | .messageFiltered .. => "message filtered out"
  | .deliveredRepeatedly .. => "message received repeatedly, check the consumer logic"
  | .leaseExpired .. => "consumption lease expired, skipping pull"
  | .groupUnavailable .. => "broker group unavailable, skipping pull"
  | .lockNotAcquired .. => "failed to acquire consumption lock"
  | .placeholderDropped .. => "placeholder pull entry received messages, dropping them"
  | .queueDrained .. => "ack queue drained"
  | .drainAborted .. => "ack queue drain aborted"
  | .offlineFlushIncomplete .. => "offline ack flush incomplete"
  | .offlineFlushAborted .. | .offlineReleaseFailed .. => "offline error"
  | .bestEffortFailed .. => "best-effort operation failed"
  | .groupMarkedUnavailable .. => "broker group marked unavailable"
  | .groupAvailableAgain .. => "broker group available again"
  | .timeoutReloaded .. => "pull request timeout reloaded"

def fields : Notice → List (String × FieldValue)
  | .queueAlreadyStarted subject | .queueAlreadyDestroyed subject => [("subject", .text subject)]
  | .flushTimedOut subject partition timeout =>
    [("subject", .text subject), ("partition", .text partition), ("timeout_ms", .number timeout)]
  | .entriesAbandoned subject partition entries outcome =>
    [("subject", .text subject), ("partition", .text partition), ("abandoned", .number entries),
      ("outcome", .text outcome.label)]
  | .scheduledFlushAborted subject partition panic =>
    [("error", .text (panicReport panic)), ("subject", .text subject),
      ("partition", .text partition)]
  | .scheduledFlushFailed subject remaining failures =>
    [("subject", .text subject), ("remaining", .number remaining), ("failures", .number failures)]
  | .transmissionFailed subject partition brokerGroup fault =>
    [("error", .text fault.message), ("subject", .text subject), ("partition", .text partition),
      ("broker_group", .text brokerGroup)]
  | .sendBackFailed subject fault => [("error", .text fault.message), ("subject", .text subject)]
  | .rangeSent subject last entries =>
    [("subject", .text subject), ("last", .number last), ("acked", .number entries)]
  | .registrationRefused subject messageId fault =>
    [("error", .text fault.message), ("subject", .text subject), ("msg_id", .text messageId)]
  | .messageFiltered subject messageId => [("subject", .text subject), ("msg_id", .text messageId)]
  | .deliveredRepeatedly subject messageId times =>
    [("times", .number times), ("subject", .text subject), ("msg_id", .text messageId)]
  | .leaseExpired subject partition => [("subject", .text subject), ("partition", .text partition)]
  | .groupUnavailable brokerGroup | .groupAvailableAgain brokerGroup =>
    [("broker_group", .text brokerGroup)]
  | .lockNotAcquired subject partition group brokerGroup =>
    [("subject", .text subject), ("partition", .text partition), ("consumer_group", .text group),
      ("broker_group", .text brokerGroup)]
  | .placeholderDropped messages => [("count", .number messages)]
  | .queueDrained subject outcome | .offlineFlushIncomplete subject outcome =>
    [("subject", .text subject), ("outcome", .text outcome.label)]
  | .drainAborted subject panic | .offlineFlushAborted subject panic =>
    [("error", .text (panicReport panic)), ("subject", .text subject)]
  | .offlineReleaseFailed subject fault =>
    [("error", .text fault.message), ("subject", .text subject)]
  | .bestEffortFailed context fault =>
    [("error", .text fault.message), ("context", .text context)]
  | .groupMarkedUnavailable brokerGroup failures =>
    [("broker_group", .text brokerGroup), ("failures", .number failures.toNat)]
  | .timeoutReloaded subject timeout =>
    [("subject", .text subject), ("timeout_ms", .number timeout)]

end Notice

/-- A number that names an ack hook of the application. -/
abbrev HookId := Nat

/-- One step of the outward account of a consumer. -/
inductive Effect
  | notice (notice : Notice)
  | counted (metric : Metric) (labels : Labels) (amount : Nat)
  | recorderFailed (metric : Metric)
  | called (task : TaskId) (call : Call)
  /-- An answer that reached a task which still waited for it. -/
  | answered (task : TaskId) (answer : Answer Unit)
  | responded (task : TaskId) (answer : Answer PullResponse)
  /-- An ack hook was called for a message. -/
  | hooked (hook : HookId) (messageId : String)
  /-- A task has a reason to go on. -/
  | woken (task : TaskId)
deriving DecidableEq

end PullConsumer
