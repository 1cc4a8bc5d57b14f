import PullConsumer.Client.Step

/-! # What a task waits for -/

namespace PullConsumer

/-- The collaborators of a client. -/
inductive Collaborator
  | ack
  | sendBack
  | pull
  | refresh
  | release
deriving DecidableEq

namespace World

/-- The collaborator whose answer a task waits for. -/
def awaited? (world : World) (task : TaskId) : Option Collaborator :=
  match world.tasks.get? task with
  | some (.scheduledFlush queue _) | some (.drain queue _ _ (some _) _) =>
    match (world.queues.get? queue).bind fun queue => queue.flushes.get? task with
    | some (.returning ..) => some .sendBack
    | some (.acking _) => some .ack
    | _ => none
  | some (.pull _ _ _ _ (some _)) => some .pull
  | some (.handBack _ _ .releasing) => some .release
  | some (.refresh _ _ true) => some .refresh
  | _ => none

/-- Whether a task can go on by itself. -/
def canProceed (world : World) (task : TaskId) : Bool :=
  match world.tasks.get? task with
  | some (.schedule queue) =>
    match world.queues.get? queue with
    | none => false
    | some queue =>
      match queue.schedule with
      | .entering _ => true
      | .idle _ => queue.signal.listener == .notified
      | .flushing _ flush => (world.results.get? flush).isSome
      | _ => false
  | some (.scheduledFlush queue _) | some (.drain queue _ _ (some _) _) =>
    ((world.queues.get? queue).map fun queue => queue.canProceed task).getD false
  | some (.drain _ _ _ none _) | some (.pull _ _ _ _ none) | some (.handBack _ _ .begun)
  | some (.refresh _ _ false) => true
  | some (.handBack _ _ (.draining drain)) => (world.results.get? drain).isSome
  | _ => false

/-- Whether a task of the application still works on a queue. -/
def inUse (world : World) (name : QueueId) : Bool :=
  world.tasks.any fun (_, task) =>
    match task with
    | .drain queue .. => queue == name
    | .pull entry .. | .handBack entry .. =>
      ((world.entries.get? entry).bind PullEntry.queue) == some name
    | _ => false

end World

end PullConsumer
