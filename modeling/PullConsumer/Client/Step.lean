import PullConsumer.Client.Flushing
import PullConsumer.Client.HandBack
import PullConsumer.Client.Pulling

/-! # Steps of a client

Everything that can happen to a client, as named events, and the effect of each. An event that is
not possible in a state changes nothing. Events may come in any order: a run is any list of them,
and every way to interleave tasks, answers, deadlines and calls of the application is a run.
-/

namespace PullConsumer

/-- A procedure that the application may begin and that may have to wait. -/
inductive Procedure
  /-- Sends all that is resolved, within a bound in milliseconds. -/
  | flush (queue : QueueId) (timeout : Nat)
  /-- Closes a queue and sends all that is resolved, within a bound in milliseconds. -/
  | close (queue : QueueId) (timeout : Nat)
  | pull (entry : EntryId) (size timeout : Nat) (hook : Option HookId)
  | handBack (entry : EntryId) (kind : HandBack)
deriving DecidableEq

/-- The task that runs a procedure from its start. -/
def Procedure.task : Procedure → Task
  | .flush queue timeout => .drain queue timeout false none none
  | .close queue timeout => .drain queue timeout true none none
  | .pull entry size timeout hook => .pull entry size timeout hook none
  | .handBack entry kind => .handBack entry kind .begun

/-- What can happen to a client. -/
inductive Event
  /-- The application makes a queue of its own. -/
  | openQueue (assignment : Assignment)
  /-- The application starts the schedule of a queue. -/
  | startQueue (queue : QueueId)
  /-- The application lets go of a queue. -/
  | discardQueue (queue : QueueId)
  | register (queue : QueueId) (message : Message)
  | resolve (queue : QueueId) (offset : Int) (verdict : Verdict)
  /-- A batch is taken in on behalf of a subject under a filter of the application. -/
  | receive (queue : QueueId) (subject : String) (accepts : Message → Bool)
      (hook : Option HookId) (messages : List Message)
  | openEntry (assignment : Assignment) (consume : ConsumeParam)
  /-- A broker's answer is interpreted outside a pull cycle. -/
  | handle (entry : EntryId) (request : PullRequest) (response : PullResponse)
      (hook : Option HookId)
  | markFailed (entry : EntryId) (group : GroupRef)
  /-- The application acknowledges a message, through its ack hook if it has one. -/
  | acknowledge (delivery : Delivery)
  | lookUpGroup (name : String)
  | groupAvailable (name : String)
  | setGroup (group : GroupRef) (available : Bool)
  | removeGroup (name : String)
  | applySettings (settings : Settings)
  | setRecorder (works : Bool)
  /-- The application begins a procedure that may wait. -/
  | begin (procedure : Procedure)
  /-- A task goes on by itself; the number selects the jitter of a backoff. -/
  | proceed (task : TaskId) (draw : Nat)
  /-- The broker answers the call of a task. -/
  | answer (task : TaskId) (answer : Answer Unit)
  /-- The broker answers the pull of a task. -/
  | respond (task : TaskId) (answer : Answer PullResponse)
  /-- The wait of a task is over because its time has come. -/
  | expire (task : TaskId)
  /-- A task is cancelled at the point at which it is suspended. -/
  | abort (task : TaskId)
  /-- Time passes. -/
  | tick (milliseconds : Nat)

/-- What the caller of an operation gets back at once. -/
inductive Reply
  | nothing
  | queue (name : QueueId)
  | entry (name : EntryId)
  | task (name : TaskId)
  | group (ref : GroupRef)
  | registered (result : Except Fault Int)
  /-- Whether a verdict took effect. -/
  | resolved (effective : Bool)
  | delivered (deliveries : List Delivery)

namespace World

/-- Makes a queue under the current settings. -/
def openQueue (world : World) (assignment : Assignment) : World × QueueId :=
  ({ world with
      queues := world.queues.set world.nextQueue (.ofAssignment assignment world.live.current)
      nextQueue := world.nextQueue + 1 }, world.nextQueue)

/-- Starts the schedule of a queue, unless it was started before or the queue is closed. -/
def startQueue (world : World) (name : QueueId) : World :=
  match world.queues.get? name with
  | none => world
  | some queue =>
    if queue.isStarted then world.log (.queueAlreadyStarted queue.assignment.subject)
    else
      let (spawned, task) := world.spawn (.schedule name)
      spawned.setQueue name (queue.startSchedule task)

/-- Makes a pull entry, with a started queue unless the assignment is a placeholder. -/
def openEntry (world : World) (assignment : Assignment) (consume : ConsumeParam) :
    World × EntryId :=
  let settings := world.live.current
  let (started, queue) :=
    if assignment.isPlaceholder then (world, none)
    else
      let (opened, name) := world.openQueue assignment
      (opened.startQueue name, some name)
  let entry : PullEntry :=
    ⟨assignment, consume, queue, settings.destroyDrainTimeout.toNat,
      settings.offlineFlushTimeout.toNat, false, false⟩
  ({ started with
      live := started.live.handOut assignment.subject
      entries := started.entries.set started.nextEntry entry
      nextEntry := started.nextEntry + 1 }, started.nextEntry)

/-- Why a schedule cannot be started where no executor runs tasks. -/
def startFault : Fault :=
  .unrecoverable "ack send queue needs an executor"

/-- Whether the entry of an offset is still pending. -/
def isPending (world : World) (name : QueueId) (offset : Int) : Bool :=
  ((world.queues.get? name).bind fun queue => queue.stateOf? offset) == some .pending

/-- Resolves an entry. -/
def resolve (world : World) (name : QueueId) (offset : Int) (verdict : Verdict) : World :=
  world.onQueue name fun queue => queue.resolve offset verdict

/-- The notices about the timeouts that new settings change. -/
def reloadNotices (live : LiveSettings) (settings : Settings) : List Effect :=
  (live.changes settings).map fun change =>
    .notice (.timeoutReloaded change.subject change.timeout)

/-- Applies new settings and logs the timeouts that they change. -/
def applySettings (world : World) (settings : Settings) : World :=
  ({ world with live := world.live.apply settings }).emitAll (reloadNotices world.live settings)

/-- The notice about a broker group that is announced again. -/
def announceNotices (registry : GroupRegistry) (name : String) : List Effect :=
  match registry.find? name with
  | some group => if registry.isAvailable group then [] else [.notice (.groupAvailableAgain name)]
  | none => []

/-- Makes the group of a name available and logs it if it was not. -/
def groupAvailable (world : World) (name : String) : World :=
  { world with registry := world.registry.markAvailable name }.emitAll
    (announceNotices world.registry name)

/-- Lets a task go on by itself. -/
def proceed (world : World) (task : TaskId) (draw : Nat) : World :=
  match world.tasks.get? task with
  | some (.schedule queue) => world.proceedSchedule task queue draw
  | some (.scheduledFlush queue _) => world.proceedFlush task queue
  | some (.drain queue timeout final none parent) => world.beginDrain task queue timeout final parent
  | some (.drain queue _ _ (some _) _) => world.proceedFlush task queue
  | some (.pull entry size timeout hook none) => world.beginPull task entry size timeout hook
  | some (.handBack entry kind .begun) => world.beginHandBack task entry kind
  | some (.handBack entry kind (.draining drain)) => world.concludeHandBack task entry kind drain
  | some (.refresh subject group false) => world.beginRefresh task subject group
  | _ => world

/-- Hands the answer of a collaborator to the task that waits for it. -/
def answer (world : World) (task : TaskId) (answer : Answer Unit) : World :=
  match world.tasks.get? task with
  | some (.scheduledFlush queue _) | some (.drain queue _ _ (some _) _) =>
    world.answerFlush task queue answer
  | some (.handBack entry kind .releasing) => world.answerRelease task entry kind answer
  | some (.refresh _ _ true) => world.answerRefresh task answer
  | _ => world

/-- When the time of a waiting task has come. -/
def due? (world : World) (task : TaskId) : Option Nat :=
  match world.tasks.get? task with
  | some (.schedule queue) => (world.queues.get? queue).bind AckQueue.scheduleDue?
  | some (.drain _ _ _ (some deadline) _) => some deadline
  | some (.pull _ _ _ _ (some (_, deadline))) => some deadline
  | _ => none

/-- Ends the wait of a task whose time has come. -/
def expire (world : World) (task : TaskId) : World :=
  if (world.due? task).all (world.clock < ·) then world
  else match world.tasks.get? task with
    | some (.schedule queue) => world.expireSchedule task queue
    | some (.drain queue timeout final (some _) _) => world.expireDrain task queue timeout final
    | some (.pull entry _ _ _ (some (request, _))) => world.expirePull task entry request
    | _ => world

/-- Cancels a task; a flush that it runs leaves the send lock. -/
def abort (world : World) (task : TaskId) : World :=
  match world.tasks.get? task with
  | none => world
  | some (.schedule queue) => world.stopSchedule queue
  | some (.scheduledFlush queue _) | some (.drain queue _ _ _ _) =>
    (world.onQueue queue fun queue => queue.closeFlush task).finish task .cancelled
  | some _ => world.finish task .cancelled

/-- The effect of an event, and what the caller of an operation gets back. -/
def step (world : World) : Event → World × Reply
  | .openQueue assignment =>
    let (opened, name) := world.openQueue assignment
    (opened, .queue name)
  | .startQueue queue => (world.startQueue queue, .nothing)
  | .discardQueue queue => (world.stopSchedule queue, .nothing)
  | .register name message =>
    match world.queues.get? name with
    | none => (world, .nothing)
    | some queue =>
      let (registered, result) := queue.register message
      (world.setQueue name registered, .registered result)
  | .resolve queue offset verdict =>
    (world.resolve queue offset verdict, .resolved (world.isPending queue offset))
  | .receive queue subject accepts hook messages =>
    let (received, deliveries) := world.receive queue subject accepts hook messages
    (received, .delivered deliveries)
  | .openEntry assignment consume =>
    let (opened, name) := world.openEntry assignment consume
    (opened, .entry name)
  | .handle name request response hook =>
    match world.entries.get? name with
    | none => (world, .nothing)
    | some entry =>
      let (handled, deliveries) := world.handle entry request response hook
      (handled, .delivered deliveries)
  | .markFailed name group =>
    match world.entries.get? name with
    | none => (world, .nothing)
    | some entry => (world.markFailed entry group, .nothing)
  | .acknowledge delivery =>
    match delivery.hook with
    | some hook => (world.record (.hooked hook delivery.message.id), .nothing)
    | none =>
      (world.resolve delivery.queue delivery.offset .complete,
        .resolved (world.isPending delivery.queue delivery.offset))
  | .lookUpGroup name =>
    let (registry, group) := world.registry.lookUp name
    ({ world with registry := registry }, .group group)
  | .groupAvailable name => (world.groupAvailable name, .nothing)
  | .setGroup group available =>
    ({ world with registry := world.registry.setAvailable group available }, .nothing)
  | .removeGroup name => ({ world with registry := world.registry.remove name }, .nothing)
  | .applySettings settings => (world.applySettings settings, .nothing)
  | .setRecorder works => ({ world with recorderWorks := works }, .nothing)
  | .begin procedure =>
    let (spawned, name) := world.spawn procedure.task
    (spawned, .task name)
  | .proceed task draw => (world.proceed task draw, .nothing)
  | .answer task answer => (world.answer task answer, .nothing)
  | .respond task answer => (world.respond task answer, .nothing)
  | .expire task => (world.expire task, .nothing)
  | .abort task => (world.abort task, .nothing)
  | .tick milliseconds => ({ world with clock := world.clock + milliseconds }, .nothing)

/-- The state after a list of events. -/
def run (world : World) (events : List Event) : World :=
  events.foldl (fun state event => (state.step event).1) world

end World

end PullConsumer
