import PullConsumer.Ack.Flush

/-! # The background schedule of a queue

The schedule never ends by itself. After a flush without failure it waits for the signal or for the
end of the interval; after failures in a row it waits for a growing delay and does not listen. Each
flush runs as a task of its own, so that a collaborator's breakdown counts as a failure and leaves
the schedule running.
-/

namespace PullConsumer.AckQueue

def startSchedule (queue : AckQueue) (task : TaskId) : AckQueue :=
  { queue with schedule := .entering 0, loop := some task }

/-- Whether a schedule was started already, or can no longer be started. -/
def isStarted (queue : AckQueue) : Bool :=
  queue.schedule != .absent || queue.destroyed

/-- Sets up the next wait of the schedule. -/
def enterWait (queue : AckQueue) (now draw : Nat) : AckQueue :=
  match queue.schedule with
  | .entering 0 =>
    { queue with schedule := .idle (now + queue.interval), signal := queue.signal.listen }
  | .entering (failures + 1) =>
    { queue with
      schedule := .backingOff (failures + 1) (now + queue.backoff.delay failures draw) }
  | _ => queue

/-- Begins a flush of the schedule, to be run by a task of its own. -/
def launch (queue : AckQueue) (failures : Nat) (flush : TaskId) : AckQueue :=
  { queue.openFlush flush with schedule := .flushing failures flush }

/-- Takes note of how a flush of the schedule ended, after so many failures in a row. -/
def noteFlush (queue : AckQueue) (failures : Nat) : FlushEnd → AckQueue × List Effect
  | .outcome (.failed remaining) =>
    ({ queue with schedule := .entering (failures + 1) },
      [.notice (.scheduledFlushFailed queue.assignment.subject remaining (failures + 1))])
  | .outcome _ => ({ queue with schedule := .entering 0 }, [])
  | .panicked text =>
    ({ queue with schedule := .entering (failures + 1) },
      [.notice (.scheduledFlushAborted queue.assignment.subject queue.assignment.partition text),
        .notice (.scheduledFlushFailed queue.assignment.subject queue.outstanding (failures + 1))])

/-- Ends the schedule; a wake-up that it did not use stays as a permit. -/
def stopSchedule (queue : AckQueue) : AckQueue :=
  match queue.schedule with
  | .absent => queue
  | _ => { queue with schedule := .stopped, signal := queue.signal.leave, loop := none }

/-- When the current wait of the schedule is over. -/
def scheduleDue? (queue : AckQueue) : Option Nat :=
  match queue.schedule with
  | .idle due | .backingOff _ due => some due
  | _ => none

end PullConsumer.AckQueue
