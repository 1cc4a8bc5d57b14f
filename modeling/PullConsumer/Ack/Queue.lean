import PullConsumer.Ack.Backoff
import PullConsumer.Ack.Entry
import PullConsumer.Ack.Signal
import PullConsumer.Effect
import PullConsumer.Settings.Basic

/-! # The acknowledgment queue

Every pulled message is registered under its pull offset. The application resolves messages in any
order; the broker is told in offset order, one range of resolved offsets at the front of the queue
at a time. This module holds the state of a queue and the operations that take effect at once;
flushes and the background schedule are in modules of their own.
-/

namespace PullConsumer

/-- How far one flush has come. -/
inductive FlushPhase
  /-- About to ask for the send lock. -/
  | fresh
  /-- In line for the send lock. -/
  | inLine
  /-- Holds the send lock and has not looked at the queue yet. -/
  | granted
  /-- Holds the send lock while the message of `current` goes back to the broker. Of the offsets
  read at the start of the round, `done` are ready for acknowledgment and `rest` come later. -/
  | returning (done : List Int) (current : Int) (rest : List Int) (message : Message)
  /-- Holds the send lock while the offsets `ready` are being acknowledged. -/
  | acking (ready : List Int)
deriving DecidableEq

/-- What the background schedule of a queue does. -/
inductive Schedule
  /-- Never started. -/
  | absent
  /-- About to wait, after so many failed flushes in a row. -/
  | entering (failures : Nat)
  /-- Waits for the signal or for the end of the interval. -/
  | idle (due : Nat)
  /-- Waits after so many failed flushes in a row, without regard to the signal. -/
  | backingOff (failures due : Nat)
  /-- Waits for a flush of its own, after so many failed flushes in a row. -/
  | flushing (failures : Nat) (flush : TaskId)
  | stopped
deriving DecidableEq

/-- The acknowledgment queue of one assignment. -/
structure AckQueue where
  assignment : Assignment
  /-- The period of the background flush in milliseconds. -/
  interval : Nat
  backoff : Backoff
  /-- Entries that were acknowledged, in offset order; the application may still hold them. -/
  settled : List AckEntry
  /-- Entries that are not acknowledged yet, in offset order. -/
  queued : List AckEntry
  window : AckWindow
  signal : AckSignal
  lock : SendLock
  flushes : Table FlushPhase
  schedule : Schedule
  /-- The task that runs the schedule. -/
  loop : Option TaskId
  destroyed : Bool

namespace AckQueue

def ofAssignment (assignment : Assignment) (settings : Settings) : AckQueue where
  assignment := assignment
  interval := settings.flushInterval
  backoff := ⟨settings.retryBaseBackoff, settings.retryMaxBackoff⟩
  settled := []
  queued := []
  window := .initial
  signal := .ofBatchSize settings.ackBatchSize.toNat
  lock := .free
  flushes := []
  schedule := .absent
  loop := none
  destroyed := false

/-- All entries ever registered, in order of registration. -/
def registered (queue : AckQueue) : List AckEntry :=
  queue.settled ++ queue.queued

/-- The number of entries that are not acknowledged. -/
def outstanding (queue : AckQueue) : Nat :=
  queue.queued.length

def stateOf? (queue : AckQueue) (offset : Int) : Option AckState :=
  AckEntry.stateAt? offset queue.registered

def changeEntry (queue : AckQueue) (offset : Int) (change : AckEntry → AckEntry) : AckQueue :=
  { queue with
    settled := AckEntry.changeAt offset change queue.settled
    queued := AckEntry.changeAt offset change queue.queued }

/-- Whether a message may be registered, and under which offset. -/
def admits (queue : AckQueue) (message : Message) : Except Fault Int :=
  if queue.destroyed then .error .entryDestroyed
  else match message.pullOffset with
    | .error cause => .error (.invalidMessage cause)
    | .ok offset =>
      if offset ≤ queue.window.max then .error (.offsetRegression offset queue.window.max)
      else .ok offset

/-- Appends a pending entry and moves the upper end of the window to it. -/
def append (queue : AckQueue) (offset : Int) : AckQueue :=
  { queue with
    queued := queue.queued ++ [.fresh offset]
    window := { queue.window with max := offset } }

/-- Registers a message under its pull offset. -/
def register (queue : AckQueue) (message : Message) : AckQueue × Except Fault Int :=
  match queue.admits message with
  | .error fault => (queue, .error fault)
  | .ok offset => (queue.append offset, .ok offset)

/-- The wake-up that a change of the signal sends to the schedule. -/
def signalEffects (queue : AckQueue) (signal : AckSignal) : List Effect :=
  match queue.loop with
  | some task => if queue.signal.wakes signal then [.woken task] else []
  | none => []

/-- Moves a pending entry on and raises the signal; a resolved entry stays as it is. -/
def resolve (queue : AckQueue) (offset : Int) (verdict : Verdict) : AckQueue × List Effect :=
  if queue.stateOf? offset = some .pending then
    ({ queue.changeEntry offset (·.resolve verdict) with signal := queue.signal.raise },
      queue.signalEffects queue.signal.raise)
  else (queue, [])

/-- The offsets at the front of the queue whose entries are resolved. -/
def readyOffsets (queue : AckQueue) : List Int :=
  (queue.queued.takeWhile fun entry => !entry.state.isPending).map AckEntry.offset

/-- Removes acknowledged entries from the front of the queue. -/
def settle (queue : AckQueue) (entries : Nat) (last : Int) : AckQueue :=
  { queue with
    settled := queue.settled ++ queue.queued.take entries
    queued := queue.queued.drop entries
    window := { queue.window with min := max queue.window.min last }
    signal := queue.signal.reset entries }

/-- For whom the events of the queue are counted. -/
def labels (queue : AckQueue) : Labels :=
  ⟨queue.assignment.subject, queue.assignment.group, none⟩

/-- How a flush without failure ended. -/
def restOutcome (queue : AckQueue) : DrainOutcome :=
  if queue.outstanding = 0 then .drained else .outstanding queue.outstanding

/-- The request that acknowledges a run of offsets at the front of the queue. -/
def ackRequest (queue : AckQueue) (ready : List Int) : AckRequest :=
  .ofRange queue.assignment (ready.headD 0) (ready.getLastD 0)

end AckQueue

end PullConsumer
