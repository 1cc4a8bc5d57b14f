import PullConsumer.Pull.Debug
import PullConsumer.Scenario.Step

/-! # Running a scenario

Each step acts on the client through the executor, then everything that can go on at the current
time does so, and the account of the step is written.
-/

namespace PullConsumer.Scenario

/-- A continuation that an ack hook has kept. -/
structure Deferred where
  id : String
  queue : QueueId
  offset : Int

/-- A scenario in progress: the client, and what the names of the scenario stand for. -/
structure Stage where
  executor : Executor
  queues : Dictionary QueueId
  entries : Dictionary EntryId
  tasks : Dictionary TaskId
  /-- Results of tasks that were waited for. -/
  joined : Dictionary TaskResult
  /-- Registered entries by message. -/
  registered : Dictionary (QueueId × Int)
  /-- Messages in the hands of the application. -/
  delivered : Dictionary Delivery
  deferred : List Deferred
  /-- Broker groups that were named so far. -/
  groups : Dictionary Unit

namespace Stage

/-- The limit on the work of one step. -/
def fuel : Nat := 10000000

/-- The wall clock at the start of a scenario, in milliseconds since the epoch. -/
def epoch : Nat := 1700000000000

/-- A scenario before its first step. -/
def initial (settings : Settings) : Stage where
  executor := .initial (.initial epoch settings)
  queues := .empty
  entries := .empty
  tasks := .empty
  joined := .empty
  registered := .empty
  delivered := .empty
  deferred := []
  groups := .empty

/-- The client. -/
def world (stage : Stage) : World := stage.executor.world

/-- Lets an event happen to the client. -/
def happen (stage : Stage) (event : Event) : Stage × Reply :=
  let (executor, reply) := stage.executor.happen event
  ({ stage with executor := executor }, reply)

/-- Lets an event happen whose reply is of no interest. -/
def apply (stage : Stage) (event : Event) : Stage :=
  (stage.happen event).1

/-- Takes note of the name of a broker group. -/
def noteGroup (stage : Stage) (name : String) : Stage :=
  { stage with groups := stage.groups.insert name () }

/-- Takes messages into the hands of the application; a later one of the same name replaces an
earlier one. -/
def keep (stage : Stage) (deliveries : List Delivery) : Stage :=
  { stage with
    delivered := deliveries.foldl (fun kept delivery => kept.insert delivery.message.id delivery)
      stage.delivered }

/-- Finds a broker group by name, made on first use. -/
def lookUp (stage : Stage) (name : String) : Stage × GroupRef :=
  match stage.happen (.lookUpGroup name) with
  | (found, .group group) => (found, group)
  | (found, _) => (found, ⟨name, 0⟩)

def stateOf (stage : Stage) (queue : QueueId) (offset : Int) : AckState :=
  (((stage.world.queues.get? queue).bind fun queue => queue.stateOf? offset)).getD .completed

def procedure? (stage : Stage) : Call → Option Procedure
  | .flush queue timeout => (stage.queues.get? queue).map fun name => .flush name timeout
  | .close queue timeout => (stage.queues.get? queue).map fun name => .close name timeout
  | .pull entry size timeout hook =>
    (stage.entries.get? entry).map fun name =>
      .pull name size timeout (hook.map HookPolicy.hook)
  | .handBack entry kind => (stage.entries.get? entry).map fun name => .handBack name kind

/-- What a task that has ended returns to a step. -/
def resultOf : TaskResult → Result
  | .outcome outcome => .outcome outcome
  | .delivered deliveries => .delivered deliveries
  | .failed fault => .fault fault
  | .done => .done
  | .panicked text => .panic text
  | .cancelled => .cancelled

def deliveriesOf : TaskResult → List Delivery
  | .delivered deliveries => deliveries
  | _ => []

/-- Takes the results of tasks that have ended, and their messages into the hands of the
application. -/
def collect (stage : Stage) : Stage :=
  stage.tasks.entries.foldl (fun stage (name, task) =>
    match stage.world.results.get? task with
    | some result =>
      { stage.keep (deliveriesOf result) with
        tasks := stage.tasks.erase name
        joined := stage.joined.insert name result }
    | none => stage) stage

/-- Executes until a task has ended, and takes its result. -/
def await (stage : Stage) (task : TaskId) : Stage × Option TaskResult :=
  let executor := Executor.drive task fuel stage.executor
  ({ stage with executor := executor }, executor.world.results.get? task)

/-- Runs a procedure to its end. -/
def runCall (stage : Stage) (call : Call) : Stage × Result :=
  match stage.procedure? call with
  | none => (stage, .nothing)
  | some procedure =>
    match stage.happen (.begin procedure) with
    | (begun, .task task) =>
      match begun.await task with
      | (ended, some result) => (ended.keep (deliveriesOf result), resultOf result)
      | (ended, none) => (ended, .stuck)
    | (begun, _) => (begun, .stuck)

def requestOf (stage : Stage) (entry : PullEntry) (parts : RequestParts) : Stage × PullRequest :=
  let assignment := entry.assignment
  let (found, group) := (stage.noteGroup (parts.brokerGroup.getD assignment.brokerGroup)).lookUp
    (parts.brokerGroup.getD assignment.brokerGroup)
  let consume : ConsumeParam :=
    { ConsumeParam.ofNames (parts.subject.getD assignment.subject)
        (parts.group.getD assignment.group) (parts.consumer.getD assignment.consumer) with
      mostOnce := parts.mostOnce }
  (found, found.world.requestOf entry consume group
    (parts.window.getD (found.world.windowOf entry)) parts.size parts.timeout)

/-- Runs the ack of a message, with what its hook does. -/
def ackMessage (stage : Stage) (delivery : Delivery) : Stage :=
  let called := stage.apply (.acknowledge delivery)
  let complete : Event := .resolve delivery.queue delivery.offset .complete
  match delivery.hook.bind HookPolicy.ofHook? with
  | none | some .drop => called
  | some .pass => called.apply complete
  | some .nackFirst =>
    (called.apply (.resolve delivery.queue delivery.offset (.retry delivery.message))).apply
      complete
  | some .defer =>
    { called with
      deferred := called.deferred ++ [⟨delivery.message.id, delivery.queue, delivery.offset⟩] }

/-- Acts on named messages in turn and reads their states after each. -/
def onMessages (stage : Stage) (act : Stage → Delivery → Stage) (ids : List String) :
    Stage × List AckState :=
  ids.foldl (fun (stage, states) id =>
    match stage.delivered.get? id with
    | none => (stage, states)
    | some delivery =>
      let acted := act stage delivery
      (acted, states ++ [acted.stateOf delivery.queue delivery.offset])) (stage, [])

/-- The filter of a batch that is handed in directly. -/
def filterOf (consume : ConsumeParam) : BatchFilter → Message → Bool
  | .acceptAll, _ => true
  | .rules, message =>
    FilterRule.allAccept (FilterRule.ofRequest
      ⟨consume, ⟨"", 0⟩, 0, 0, 0, .initial, "", .shared, 0⟩) message
  | .rejectIds ids, message => !ids.contains message.id

/-- Lets go of a queue: its schedule ends once no running task holds the queue. -/
def orphan (stage : Stage) (queue : QueueId) : Stage :=
  let orphaned := { stage.executor with orphans := stage.executor.orphans ++ [queue] }
  { stage with executor := orphaned.releaseOrphans }

/-- The effect of a step and what it returns. -/
def act (stage : Stage) : Step → Stage × Result
  | .script collaborator outcomes always =>
    let scripts := stage.executor.scripts
    let old := scripts.get collaborator
    let script : Script := ⟨outcomes.getD old.next, always.getD old.always⟩
    ({ stage with
        executor := { stage.executor with scripts := scripts.set collaborator script } }, .nothing)
  | .metrics works => (stage.apply (.setRecorder works), .nothing)
  | .config settings => (stage.apply (.applySettings settings), .nothing)
  | .newQueue name assignment start =>
    match stage.happen (.openQueue assignment) with
    | (opened, .queue queue) =>
      let started := if start then opened.apply (.startQueue queue) else opened
      let replaced :=
        match stage.queues.get? name with
        | some old => started.orphan old
        | none => started
      ({ replaced with queues := replaced.queues.insert name queue }, .ok)
    | (opened, _) => (opened, .stuck)
  | .start name =>
    match stage.queues.get? name with
    | some queue => (stage.apply (.startQueue queue), .ok)
    | none => (stage, .nothing)
  | .register name message =>
    match stage.queues.get? name with
    | none => (stage, .nothing)
    | some queue =>
      match stage.happen (.register queue message) with
      | (registered, .registered (.ok offset)) =>
        ({ registered with
            registered := registered.registered.insert message.id (queue, offset) },
          .registered offset (registered.stateOf queue offset))
      | (registered, .registered (.error fault)) => (registered, .fault fault)
      | (registered, _) => (registered, .nothing)
  | .resolve id verdict =>
    match stage.registered.get? id with
    | none => (stage, .nothing)
    | some (queue, offset) =>
      match stage.happen (.resolve queue offset verdict) with
      | (resolved, .resolved effective) =>
        (resolved, .entry (some effective) (resolved.stateOf queue offset))
      | (resolved, _) => (resolved, .nothing)
  | .entryState id =>
    match stage.registered.get? id with
    | none => (stage, .nothing)
    | some (queue, offset) => (stage, .entry none (stage.stateOf queue offset))
  | .feed name messages filter hook consume =>
    match stage.queues.get? name with
    | none => (stage, .nothing)
    | some queue =>
      match stage.happen (.receive queue consume.subject (filterOf consume filter)
          (hook.map HookPolicy.hook) messages) with
      | (received, .delivered deliveries) =>
        (received.keep deliveries, .delivered deliveries)
      | (received, _) => (received, .nothing)
  | .ack ids =>
    let (acted, states) := stage.onMessages ackMessage ids
    (acted, .states states)
  | .nack ids =>
    let (acted, states) := stage.onMessages (fun stage delivery =>
      stage.apply (.resolve delivery.queue delivery.offset (.retry delivery.message))) ids
    (acted, .states states)
  | .releaseHooks =>
    let released := stage.deferred.foldl (fun stage deferred =>
      stage.apply (.resolve deferred.queue deferred.offset .complete)) stage
    ({ released with deferred := [] }, .names (stage.deferred.map Deferred.id))
  | .show id key =>
    match stage.delivered.get? id with
    | none => (stage, .nothing)
    | some delivery =>
      (stage, .message ⟨delivery.message, delivery.offset,
        stage.stateOf delivery.queue delivery.offset, delivery.message.property? key,
        delivery.message.flag key⟩)
  | .debug id =>
    match stage.delivered.get? id with
    | none => (stage, .nothing)
    | some delivery =>
      (stage, .text (delivery.message.deliveredText delivery.offset delivery.hook.isSome))
  | .call call => stage.runCall call
  | .advance milliseconds =>
    ({ stage with
        executor := Executor.advanceTo (stage.world.clock + milliseconds) fuel stage.executor },
      .nothing)
  | .newEntry name assignment mostOnce =>
    let consume :=
      { ConsumeParam.ofNames assignment.subject assignment.group assignment.consumer with
        mostOnce := mostOnce }
    match (stage.noteGroup assignment.brokerGroup).happen (.openEntry assignment consume) with
    | (opened, .entry entry) =>
      let replaced :=
        match (stage.entries.get? name).bind fun old =>
            (stage.world.entries.get? old).bind PullEntry.queue with
        | some queue => opened.orphan queue
        | none => opened
      ({ replaced with entries := replaced.entries.insert name entry },
        .assignment assignment assignment.isPlaceholder)
    | (opened, _) => (opened, .stuck)
  | .buildRequest name parts =>
    match (stage.entries.get? name).bind fun entry => stage.world.entries.get? entry with
    | none => (stage, .nothing)
    | some entry =>
      let (found, request) := stage.requestOf entry parts
      (found, .request request (found.world.registry.health request.brokerGroup))
  | .handle name parts code messages group hook =>
    match stage.entries.get? name with
    | none => (stage, .nothing)
    | some entryId =>
      match stage.world.entries.get? entryId with
      | none => (stage, .nothing)
      | some entry =>
        let (found, request) := stage.requestOf entry parts
        let answering := group.getD request.brokerGroup.name
        let (answered, ref) := (found.noteGroup answering).lookUp answering
        match answered.happen (.handle entryId request ⟨code, ref, messages⟩
            (hook.map HookPolicy.hook)) with
        | (handled, .delivered deliveries) => (handled.keep deliveries, .delivered deliveries)
        | (handled, _) => (handled, .nothing)
  | .markFailed name group =>
    match stage.entries.get? name with
    | none => (stage, .nothing)
    | some entry =>
      let (found, ref) := (stage.noteGroup group).lookUp group
      let marked := found.apply (.markFailed entry ref)
      (marked, .group (marked.world.registry.health ref))
  | .group name action =>
    let noted := stage.noteGroup name
    match action with
    | .available => (noted.apply (.groupAvailable name), .nothing)
    | .unavailable =>
      let (found, ref) := noted.lookUp name
      (found.apply (.setGroup ref false), .nothing)
    | .remove => (noted.apply (.removeGroup name), .nothing)
  | .dropQueue name =>
    match stage.queues.get? name with
    | none => (stage, .flag false)
    | some queue => ({ stage with queues := stage.queues.erase name }.orphan queue, .flag true)
  | .dropEntry name =>
    match stage.entries.get? name with
    | none => (stage, .flag false)
    | some entry =>
      let dropped := { stage with entries := stage.entries.erase name }
      match (stage.world.entries.get? entry).bind PullEntry.queue with
      | some queue => (dropped.orphan queue, .flag true)
      | none => (dropped, .flag true)
  | .spawn name call =>
    match stage.procedure? call with
    | none => (stage, .nothing)
    | some procedure =>
      match stage.happen (.begin procedure) with
      | (begun, .task task) =>
        ({ begun with
            tasks := begun.tasks.insert name task
            joined := begun.joined.erase name }, .nothing)
      | (begun, _) => (begun, .nothing)
  | .join name =>
    let waited :=
      match stage.tasks.get? name with
      | some task => (stage.await task).1.collect
      | none => stage
    (waited, ((waited.joined.get? name).map resultOf).getD .stuck)
  | .running name =>
    match stage.tasks.get? name with
    | none => (stage, .flag false)
    | some task => (stage, .flag (stage.world.tasks.get? task).isSome)
  | .abort name =>
    match stage.tasks.get? name with
    | none => (stage, .nothing)
    | some task =>
      if (stage.world.tasks.get? task).isNone then (stage, .nothing)
      else
        ({ stage with
            executor := { stage.executor with
              world := stage.world.wake task
              cancelled := stage.executor.cancelled ++ [task] } }, .nothing)

/-- What can be read off the queues that have names. -/
def queueViews (stage : Stage) : Dictionary QueueView :=
  stage.queues.mapValues fun _ name =>
    match stage.world.queues.get? name with
    | some queue => ⟨queue.window, queue.outstanding, queue.destroyed⟩
    | none => ⟨.initial, 0, false⟩

/-- What can be read off the entries that have names. -/
def entryViews (stage : Stage) : Dictionary EntryView :=
  stage.entries.mapValues fun _ name =>
    match stage.world.entries.get? name with
    | some entry => ⟨stage.world.windowOf entry, entry.destroyed⟩
    | none => ⟨.initial, false⟩

/-- The health of the broker groups that were named and are registered. -/
def groupViews (stage : Stage) : Dictionary GroupHealth :=
  .ofList (stage.groups.keys.filterMap fun name =>
    (stage.world.registry.find? name).map fun ref => (name, stage.world.registry.health ref))

/-- Takes a step, lets everything go on that can, and writes the account. -/
def step (stage : Stage) (step : Step) : Stage × Item :=
  let before := stage.world.history.length
  let (acted, result) := stage.act step
  let settled := { acted with executor := Executor.settle fuel acted.executor }.collect
  let effects := (settled.world.history.take (settled.world.history.length - before)).reverse
  (settled, ⟨result, effects, settled.world.clock, settled.queueViews, settled.entryViews,
    settled.groupViews⟩)

/-- Takes steps in order. -/
def run (stage : Stage) : List Step → List Item
  | [] => []
  | next :: rest =>
    let (after, item) := stage.step next
    item :: after.run rest

end Stage

end PullConsumer.Scenario
