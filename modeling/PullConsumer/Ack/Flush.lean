import PullConsumer.Ack.Queue

/-! # Flushes

A flush repeats rounds until nothing at the front of the queue is resolved. A round holds the send
lock: it reads the resolved offsets at the front, returns the failed messages among them to the
broker one by one, and then acknowledges the offsets up to the first message that could not be
returned. A failed call ends the flush and leaves the entries queued. A flush may be dropped at any
moment, and the lock then passes on.
-/

namespace PullConsumer

/-- How a flush ended: with an outcome, or with the breakdown of a collaborator. -/
inductive FlushEnd
  | outcome (outcome : DrainOutcome)
  | panicked (text : String)
deriving DecidableEq

/-- A queue after a step, with what the step did and how the flush ended if it did. -/
structure FlushStep where
  queue : AckQueue
  effects : List Effect
  ended : Option FlushEnd

/-- Puts effects in front of those of a step. -/
def FlushStep.after (step : FlushStep) (effects : List Effect) : FlushStep :=
  { step with effects := effects ++ step.effects }

namespace AckQueue

def openFlush (queue : AckQueue) (task : TaskId) : AckQueue :=
  { queue with flushes := queue.flushes.set task .fresh }

def setPhase (queue : AckQueue) (task : TaskId) (phase : FlushPhase) : AckQueue :=
  { queue with flushes := queue.flushes.set task phase }

/-- Lets a task leave the lock and its line; the next in line is told that it holds the lock. -/
def leaveLock (queue : AckQueue) (task : TaskId) : AckQueue × List Effect :=
  let lock := queue.lock.drop task
  match lock.holder with
  | some next =>
    if queue.lock.holder = some next then ({ queue with lock := lock }, [])
    else ({ queue with lock := lock, flushes := queue.flushes.set next .granted }, [.woken next])
  | none => ({ queue with lock := lock }, [])

/-- Removes a flush, and with it its place at the lock. -/
def closeFlush (queue : AckQueue) (task : TaskId) : AckQueue × List Effect :=
  let (left, effects) := queue.leaveLock task
  ({ left with flushes := left.flushes.erase task }, effects)

/-- Ends a flush because a call failed. -/
def failFlush (queue : AckQueue) (task : TaskId) (fault : Fault) : FlushStep :=
  let (closed, effects) := queue.closeFlush task
  ⟨closed,
    effects ++ [.notice (.transmissionFailed queue.assignment.subject queue.assignment.partition
      queue.assignment.brokerGroup fault)],
    some (.outcome (.failed closed.outstanding))⟩

/-- Calls the broker to acknowledge offsets. -/
def beginAck (queue : AckQueue) (task : TaskId) (ready : List Int) : FlushStep :=
  ⟨queue.setPhase task (.acking ready),
    [.called task (.sendAck queue.assignment.brokerGroup (queue.ackRequest ready))], none⟩

/-- Goes through the offsets of a round up to the next message that has to be returned. -/
def transmit (queue : AckQueue) (task : TaskId) (done : List Int) : List Int → FlushStep
  | [] => queue.beginAck task done
  | offset :: rest =>
    match queue.stateOf? offset with
    | some (.needRetry message) =>
      ⟨queue.setPhase task (.returning done offset rest message),
        [.called task (.sendBack queue.assignment.brokerGroup message)], none⟩
    | _ => queue.transmit task (done ++ [offset]) rest

/-- Lets a flush go on by itself: it asks for the lock, or begins a round under the lock. -/
def proceedFlush (queue : AckQueue) (task : TaskId) : FlushStep :=
  match queue.flushes.get? task with
  | some .fresh =>
    let lock := queue.lock.request task
    let phase := if lock.holder = some task then FlushPhase.granted else .inLine
    ⟨{ queue with lock := lock, flushes := queue.flushes.set task phase }, [], none⟩
  | some .granted =>
    match queue.readyOffsets with
    | [] =>
      let (closed, effects) := queue.closeFlush task
      ⟨closed, effects, some (.outcome closed.restOutcome)⟩
    | ready => queue.transmit task [] ready
  | _ => ⟨queue, [], none⟩

/-- Gives the lock back after an accepted acknowledgment and opens the next round. -/
def endRound (queue : AckQueue) (task : TaskId) : AckQueue × List Effect :=
  let (left, effects) := queue.leaveLock task
  (left.setPhase task .fresh, effects)

/-- Hands the answer of the broker to the flush that waits for it. -/
def answerFlush (queue : AckQueue) (task : TaskId) (answer : Answer Unit) : FlushStep :=
  match queue.flushes.get? task, answer with
  | some (.returning done current rest _), .value () =>
    ((queue.changeEntry current AckEntry.markReturned).transmit task (done ++ [current]) rest).after
      [.answered task answer, .counted .sendBack queue.labels 1]
  | some (.returning done _ _ _), .failed fault =>
    if done.isEmpty then (queue.failFlush task fault).after [.answered task answer]
    else (queue.beginAck task done).after
      [.answered task answer, .notice (.sendBackFailed queue.assignment.subject fault)]
  | some (.acking ready), .value () =>
    let last := ready.getLastD 0
    let (next, effects) := (queue.settle ready.length last).endRound task
    ⟨next, [.answered task answer, .counted .ackSend queue.labels 1,
      .notice (.rangeSent queue.assignment.subject last ready.length)] ++ effects, none⟩
  | some (.acking _), .failed fault =>
    (queue.failFlush task fault).after
      [.answered task answer, .counted .ackSendFail queue.labels 1]
  | some (.returning ..), .panicked text | some (.acking _), .panicked text =>
    let (closed, effects) := queue.closeFlush task
    ⟨closed, .answered task answer :: effects, some (.panicked text)⟩
  | _, _ => ⟨queue, [], none⟩

/-- Whether a flush waits for the answer to a call. -/
def awaitsAnswer (queue : AckQueue) (task : TaskId) : Bool :=
  match queue.flushes.get? task with
  | some (.returning ..) | some (.acking _) => true
  | _ => false

/-- Whether a flush can go on by itself. -/
def canProceed (queue : AckQueue) (task : TaskId) : Bool :=
  match queue.flushes.get? task with
  | some .fresh | some .granted => true
  | _ => false

end AckQueue

end PullConsumer
