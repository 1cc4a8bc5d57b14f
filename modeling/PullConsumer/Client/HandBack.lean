import PullConsumer.Client.World

/-! # Giving an assignment back

A teardown and a rebalance both flush the queue on a task of its own, within a bound, and then
release the consumption lock. The lock is released at most once per entry, whatever comes of it.
-/

namespace PullConsumer.World

/-- Releases the lock of an entry, unless that was asked of the broker before. -/
def beginRelease (world : World) (task : TaskId) (name : EntryId) (kind : HandBack)
    (entry : PullEntry) : World :=
  if entry.lockReleased then world.finish task .done
  else
    ((world.setEntry name { entry with lockReleased := true }).setTask task
      (.handBack name kind .releasing)).emit (.called task (.release entry.assignment.subject
        entry.assignment.group entry.assignment.partition entry.assignment.brokerGroup
        entry.assignment.strategy))

/-- Begins a hand-back: the flush of the queue is started as a task of its own. A teardown that
was begun before, and a placeholder, have nothing to give back. -/
def beginHandBack (world : World) (task : TaskId) (name : EntryId) (kind : HandBack) : World :=
  match world.entries.get? name with
  | none => world
  | some entry =>
    let marked :=
      match kind with
      | .destroy => world.setEntry name { entry with destroyed := true }
      | .offline => world
    if kind = .destroy ∧ entry.destroyed then world.finish task .done
    else match entry.queue with
      | none => marked.finish task .done
      | some queue =>
        let (timeout, final) :=
          match kind with
          | .destroy => (entry.drainTimeout, true)
          | .offline => (entry.offlineTimeout, false)
        let (spawned, drain) := marked.spawn (.drain queue timeout final none (some task))
        spawned.setTask task (.handBack name kind (.draining drain))

/-- The notices about the flush of a hand-back. -/
def drainNotices (kind : HandBack) (subject : String) : TaskResult → List Effect
  | .outcome outcome =>
    match kind, outcome with
    | .destroy, _ => [.notice (.queueDrained subject outcome)]
    | .offline, .drained | .offline, .outstanding _ => []
    | .offline, _ => [.notice (.offlineFlushIncomplete subject outcome)]
  | .panicked text =>
    match kind with
    | .destroy => [.notice (.drainAborted subject text)]
    | .offline => [.notice (.offlineFlushAborted subject text)]
  | _ => []

/-- Goes on from the end of the flush to the release of the lock. -/
def concludeHandBack (world : World) (task : TaskId) (name : EntryId) (kind : HandBack)
    (drain : TaskId) : World :=
  match world.results.get? drain, world.entries.get? name with
  | some result, some entry =>
    ({ world with results := world.results.erase drain }.emitAll
      (drainNotices kind entry.assignment.subject result)).beginRelease task name kind entry
  | _, _ => world

/-- Hands the answer about the lock to the hand-back that waits for it. -/
def answerRelease (world : World) (task : TaskId) (name : EntryId) (kind : HandBack)
    (answer : Answer Unit) : World :=
  let answered := world.record (.answered task answer)
  match answer, world.entries.get? name with
  | .value (), _ | .failed _, none => answered.finish task .done
  | .failed fault, some entry =>
    (match kind with
      | .destroy => answered.bestEffort "release consumption lock" fault
      | .offline => answered.log (.offlineReleaseFailed entry.assignment.subject fault)).finish
        task .done
  | .panicked text, _ => answered.finish task (.panicked text)

/-- Asks for a refresh of the broker metadata of a consumer. -/
def beginRefresh (world : World) (task : TaskId) (subject group : String) : World :=
  (world.setTask task (.refresh subject group true)).emit
    (.called task (@Call.refresh .consumer subject group))

/-- Hands the answer to the refresh that waits for it; a failure is only logged. -/
def answerRefresh (world : World) (task : TaskId) (answer : Answer Unit) : World :=
  let answered := world.record (.answered task answer)
  match answer with
  | .value () => answered.finish task .done
  | .failed fault => (answered.bestEffort "refresh broker metadata" fault).finish task .done
  | .panicked text => answered.finish task (.panicked text)

end PullConsumer.World
