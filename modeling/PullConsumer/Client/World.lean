import PullConsumer.Ack.Intake
import PullConsumer.Ack.Schedule
import PullConsumer.Pull.Filter
import PullConsumer.Settings.Live

/-! # The state of a client

Queues, pull entries, broker groups and live settings, together with the tasks that work on them
and the account of what has happened so far. A task is a point in one of the client's procedures at
which it can be suspended; everything between two such points happens at once.
-/

namespace PullConsumer

/-- The name of a queue. -/
abbrev QueueId := Nat

/-- The name of a pull entry. -/
abbrev EntryId := Nat

/-- A message in the hands of the application. -/
structure Delivery where
  message : Message
  queue : QueueId
  offset : Int
  hook : Option HookId
deriving DecidableEq

/-- The consumption of one assignment; a placeholder has no queue. -/
structure PullEntry where
  assignment : Assignment
  consume : ConsumeParam
  queue : Option QueueId
  /-- The bound on the flush at teardown. -/
  drainTimeout : Nat
  /-- The bound on the flush when the entry goes offline. -/
  offlineTimeout : Nat
  destroyed : Bool
  lockReleased : Bool
deriving DecidableEq

/-- The two ways to give an assignment back. -/
inductive HandBack
  | destroy
  | offline
deriving DecidableEq

/-- How far a hand-back has come. -/
inductive HandBackStage
  | begun
  | draining (drain : TaskId)
  | releasing
deriving DecidableEq

/-- A suspended procedure of the client. -/
inductive Task
  /-- The background schedule of a queue. -/
  | schedule (queue : QueueId)
  /-- A flush of the background schedule. -/
  | scheduledFlush (queue : QueueId) (parent : TaskId)
  /-- A bounded flush. A final one closes the queue first. It has a deadline once it has begun. -/
  | drain (queue : QueueId) (timeout : Nat) (final : Bool) (deadline : Option Nat)
      (parent : Option TaskId)
  /-- A pull cycle; once the broker is called it has a request and a deadline. -/
  | pull (entry : EntryId) (size timeout : Nat) (hook : Option HookId)
      (calling : Option (PullRequest × Nat))
  /-- The hand-back of an assignment. -/
  | handBack (entry : EntryId) (kind : HandBack) (stage : HandBackStage)
  /-- A refresh of broker metadata. -/
  | refresh (subject group : String) (calling : Bool)
deriving DecidableEq

/-- How a task ended. -/
inductive TaskResult
  | outcome (outcome : DrainOutcome)
  | delivered (deliveries : List Delivery)
  | failed (fault : Fault)
  | done
  | panicked (text : String)
  | cancelled
deriving DecidableEq

/-- The state of a client. -/
structure World where
  /-- Milliseconds since the start. -/
  clock : Nat
  /-- The wall clock at the start, in milliseconds since the epoch. -/
  epoch : Nat
  /-- Whether the metrics recorder accepts increments. -/
  recorderWorks : Bool
  live : LiveSettings
  registry : GroupRegistry
  queues : Table AckQueue
  entries : Table PullEntry
  tasks : Table Task
  results : Table TaskResult
  nextQueue : QueueId
  nextEntry : EntryId
  nextTask : TaskId
  /-- Tasks with a reason to go on, in the order in which they got it. -/
  ready : List TaskId
  /-- What has happened so far, the latest first. -/
  history : List Effect

namespace World

/-- A client at its start. -/
def initial (epoch : Nat) (settings : Settings) : World where
  clock := 0
  epoch := epoch
  recorderWorks := true
  live := .ofSettings settings
  registry := .empty
  queues := []
  entries := []
  tasks := []
  results := []
  nextQueue := 0
  nextEntry := 0
  nextTask := 0
  ready := []
  history := []

/-- Writes into the account. -/
def record (world : World) (effect : Effect) : World :=
  { world with history := effect :: world.history }

/-- Logs the failure of a side effect that must not reach the caller. -/
def bestEffort (world : World) (context : String) (fault : Fault) : World :=
  world.record (.notice (.bestEffortFailed context fault))

/-- Counts an event; a broken recorder costs the increment and a log line, and nothing else. -/
def count (world : World) (metric : Metric) (labels : Labels) (amount : Nat) : World :=
  if world.recorderWorks then world.record (.counted metric labels amount)
  else (world.record (.recorderFailed metric)).bestEffort metric.context
    (.metricsRecorder metric.name)

/-- Gives a task a reason to go on. -/
def wake (world : World) (task : TaskId) : World :=
  if task ∈ world.ready then world else { world with ready := world.ready ++ [task] }

/-- Brings one effect about. -/
def emit (world : World) : Effect → World
  | .counted metric labels amount => world.count metric labels amount
  | .woken task => world.wake task
  | effect => world.record effect

/-- Brings effects about in order. -/
def emitAll (world : World) (effects : List Effect) : World :=
  effects.foldl emit world

/-- Logs a notice. -/
def log (world : World) (notice : Notice) : World :=
  world.record (.notice notice)

/-- Replaces a queue. -/
def setQueue (world : World) (name : QueueId) (queue : AckQueue) : World :=
  { world with queues := world.queues.set name queue }

def setEntry (world : World) (name : EntryId) (entry : PullEntry) : World :=
  { world with entries := world.entries.set name entry }

/-- Replaces a task. -/
def setTask (world : World) (name : TaskId) (task : Task) : World :=
  { world with tasks := world.tasks.set name task }

/-- Starts a task; it goes on when its turn comes. -/
def spawn (world : World) (task : Task) : World × TaskId :=
  ({ world with
      tasks := world.tasks.set world.nextTask task
      nextTask := world.nextTask + 1 }.wake world.nextTask,
    world.nextTask)

/-- The task that waits for the end of a task. -/
def parent? (world : World) (task : TaskId) : Option TaskId :=
  match world.tasks.get? task with
  | some (.scheduledFlush _ parent) => some parent
  | some (.drain _ _ _ _ parent) => parent
  | _ => none

/-- Ends a task and tells the task that waits for it. -/
def finish (world : World) (task : TaskId) (result : TaskResult) : World :=
  let ended := { world with
    tasks := world.tasks.erase task
    results := world.results.set task result }
  match world.parent? task with
  | some parent => ended.wake parent
  | none => ended

/-- Changes a queue by a function that reports effects. -/
def onQueue (world : World) (name : QueueId) (change : AckQueue → AckQueue × List Effect) : World :=
  match world.queues.get? name with
  | some queue =>
    let (changed, effects) := change queue
    (world.setQueue name changed).emitAll effects
  | none => world

end World

end PullConsumer
