import PullConsumer.Client.World

/-! # Flushing tasks

The background schedule, its flushes, and the bounded flushes that callers ask for.
-/

namespace PullConsumer.World

/-- Begins a flush of the schedule as a task of its own. -/
def launch (world : World) (loop : TaskId) (name : QueueId) (queue : AckQueue) (failures : Nat) :
    World :=
  let (spawned, flush) := world.spawn (.scheduledFlush name loop)
  spawned.setQueue name (queue.launch failures flush)

def flushEnd? : TaskResult → Option FlushEnd
  | .outcome outcome => some (.outcome outcome)
  | .panicked text => some (.panicked text)
  | _ => none

/-- Lets the schedule of a queue go on; `draw` selects the jitter of a backoff. -/
def proceedSchedule (world : World) (task : TaskId) (name : QueueId) (draw : Nat) : World :=
  match world.queues.get? name with
  | none => world
  | some queue =>
    match queue.schedule with
    | .entering _ => world.setQueue name (queue.enterWait world.clock draw)
    | .idle _ =>
      if queue.signal.listener = .notified then
        world.launch task name { queue with signal := queue.signal.consume } 0
      else world
    | .flushing failures flush =>
      match (world.results.get? flush).bind flushEnd? with
      | some ended =>
        let (next, effects) := queue.noteFlush failures ended
        ({ world with results := world.results.erase flush }.setQueue name next).emitAll effects
      | none => world
    | _ => world

/-- Ends a wait of the schedule whose time has come. -/
def expireSchedule (world : World) (task : TaskId) (name : QueueId) : World :=
  match world.queues.get? name with
  | none => world
  | some queue =>
    match queue.schedule with
    | .idle due =>
      if due ≤ world.clock then
        world.launch task name { queue with signal := queue.signal.leave } 0
      else world
    | .backingOff failures due =>
      if due ≤ world.clock then world.launch task name queue failures else world
    | _ => world

def stopSchedule (world : World) (name : QueueId) : World :=
  match world.queues.get? name with
  | none => world
  | some queue =>
    let stopped := world.setQueue name queue.stopSchedule
    match queue.loop with
    | some loop => { stopped with tasks := stopped.tasks.erase loop }
    | none => stopped

/-- What a task returns when its flush has ended. -/
def resultOf : FlushEnd → TaskResult
  | .outcome outcome => .outcome outcome
  | .panicked text => .panicked text

/-- Ends a bounded flush; a final one reports the entries that it gives up. -/
def concludeDrain (world : World) (task : TaskId) (name : QueueId) (final : Bool)
    (ended : FlushEnd) : World :=
  match world.queues.get? name, ended with
  | some queue, .outcome outcome =>
    let reported :=
      if final ∧ 0 < queue.outstanding then
        world.log (.entriesAbandoned queue.assignment.subject queue.assignment.partition
          queue.outstanding outcome)
      else world
    reported.finish task (.outcome outcome)
  | _, _ => world.finish task (resultOf ended)

/-- Takes over a step of a flush and ends its task if the flush has ended. -/
def adopt (world : World) (task : TaskId) (name : QueueId) (step : FlushStep) : World :=
  let changed := (world.setQueue name step.queue).emitAll step.effects
  match step.ended, changed.tasks.get? task with
  | some ended, some (.drain _ _ final _ _) => changed.concludeDrain task name final ended
  | some ended, _ => changed.finish task (resultOf ended)
  | none, _ => changed

/-- Lets the flush of a task go on by itself. -/
def proceedFlush (world : World) (task : TaskId) (name : QueueId) : World :=
  match world.queues.get? name with
  | some queue => world.adopt task name (queue.proceedFlush task)
  | none => world

def answerFlush (world : World) (task : TaskId) (name : QueueId) (answer : Answer Unit) : World :=
  match world.queues.get? name with
  | some queue => world.adopt task name (queue.answerFlush task answer)
  | none => world

/-- Begins a bounded flush. A final flush first closes the queue to registrations and stops its
schedule, and does nothing on a queue that is closed already. -/
def beginDrain (world : World) (task : TaskId) (name : QueueId) (timeout : Nat) (final : Bool)
    (parent : Option TaskId) : World :=
  match world.queues.get? name with
  | none => world
  | some queue =>
    if final && queue.destroyed then
      (world.log (.queueAlreadyDestroyed queue.assignment.subject)).finish task (.outcome .drained)
    else
      let closed :=
        if final then (world.setQueue name { queue with destroyed := true }).stopSchedule name
        else world
      (closed.onQueue name fun queue => (queue.openFlush task, [])).setTask task
        (.drain name timeout final (some (world.clock + timeout)) parent)

/-- Ends a bounded flush whose deadline has come. -/
def expireDrain (world : World) (task : TaskId) (name : QueueId) (timeout : Nat) (final : Bool) :
    World :=
  match world.queues.get? name with
  | none => world
  | some queue =>
    ((world.onQueue name fun queue => queue.closeFlush task).log
      (.flushTimedOut queue.assignment.subject queue.assignment.partition timeout)).concludeDrain
        task name final (.outcome .timedOut)

end PullConsumer.World
