import PullConsumer.Proofs.Client.Transitions
import PullConsumer.Proofs.Queue.Move

/-! # The account of a queue of a client

Which lines a step of a client leaves in the account of a queue: the messages that the event offers
to the queue, and the calls and answers of its flushes, read off the history of the client. The
account of a run collects the lines of its events (`World.account`).
-/

namespace PullConsumer

namespace World

/-- The queue whose flush a task runs at the moment. -/
def flushOf? (world : World) (task : TaskId) : Option QueueId :=
  (world.tasks.get? task).bind Task.flushOf?

/-- The queue that a task flushes is read off the task. -/
theorem flushOf?_of_get? {world : World} {task : TaskId} {own : Task}
    (here : world.tasks.get? task = some own) : world.flushOf? task = own.flushOf? := by
  rw [flushOf?, here, Option.bind_some]

/-- The task of a flush lets it go on, and hands answers to it. -/
theorem step_of_flushOf? {world : World} {task : TaskId} {name : QueueId} {queue : AckQueue}
    (here : world.queues.get? name = some queue) (owns : world.flushOf? task = some name)
    (draw : Nat) (answer : Answer Unit) :
    (world.step (.proceed task draw)).1 = world.adopt task name (queue.proceedFlush task) ∧
      (world.step (.answer task answer)).1 =
        world.adopt task name (queue.answerFlush task answer) := by
  obtain ⟨own, present, runs⟩ := Option.bind_eq_some_iff.mp owns
  exact flush_eq present runs here draw answer

/-- The lines about the flushes of a queue. -/
def linesOf (world : World) (name : QueueId) (account : Account) : Account :=
  account.filter fun mark => mark.task?.bind world.flushOf? == some name

/-- What has happened since an earlier state, the earliest first. -/
def since (world earlier : World) : List Effect :=
  (world.history.take (world.history.length - earlier.history.length)).reverse

/-- The messages that the answer to a pull of an entry hands to a queue. -/
def pulled (world : World) (name : QueueId) (entry : EntryId) (response : PullResponse) :
    List Message :=
  match response.code with
  | .brokerReject | .acquireLockFailed => []
  | _ =>
    if (world.entries.get? entry).bind PullEntry.queue = some name then response.messages else []

/-- The messages that an event hands to a queue, in the order of their registration. -/
def handed (world : World) (name : QueueId) : Event → List Message
  | .register queue message => if queue = name then [message] else []
  | .receive queue _ _ _ messages => if queue = name then messages else []
  | .handle entry _ response _ => world.pulled name entry response
  | .respond task (.value response) =>
    match world.tasks.get? task with
    | some (.pull entry _ _ _ (some _)) => world.pulled name entry response
    | _ => []
  | _ => []

/-- The lines about messages that are handed to a queue, with the answers of the queue. -/
def offers (world : World) (name : QueueId) (messages : List Message) : Account :=
  match world.queues.get? name with
  | some queue => queue.offers messages
  | none => []

/-- The lines that an event leaves in the account of a queue. -/
def lines (world : World) (name : QueueId) (event : Event) : Account :=
  world.offers name (world.handed name event) ++
    world.linesOf name (.ofEffects ((world.step event).1.since world))

/-- The account of a queue over a list of events. -/
def account (name : QueueId) : World → List Event → Account
  | _, [] => []
  | world, event :: rest => world.lines name event ++ account name (world.step event).1 rest

/-! ### What is told

`before.Tells account after`: the history went on from one state to the other, and the calls and
answers in it are those of the account. -/

/-- The history went on by effects that leave these lines. -/
def Tells (before : World) (account : Account) (after : World) : Prop :=
  ∃ fresh, after.history = fresh ++ before.history ∧ Account.ofEffects fresh.reverse = account

namespace Tells

variable {before middle after : World} {first second account : Account}

theorem of_eq (same : after.history = before.history) : before.Tells [] after :=
  ⟨[], same, rfl⟩

theorem trans (start : before.Tells first middle) (rest : middle.Tells second after) :
    before.Tells (first ++ second) after := by
  obtain ⟨earlier, middleHistory, rfl⟩ := start
  obtain ⟨later, afterHistory, rfl⟩ := rest
  refine ⟨later ++ earlier, ?_, ?_⟩
  · rw [afterHistory, middleHistory, List.append_assoc]
  · rw [List.reverse_append, Account.ofEffects_append]

/-- What was told is what has happened since. -/
theorem ofEffects_since (tells : before.Tells account after) :
    Account.ofEffects (after.since before) = account := by
  obtain ⟨fresh, history, lines⟩ := tells
  rw [since, history, List.length_append, Nat.add_sub_cancel, List.take_left, lines]

/-- If nothing had happened before, every call has been told. -/
theorem called (tells : before.Tells account after) (start : before.history = []) {task : TaskId}
    {call : Call} (called : Effect.called task call ∈ after.history) :
    Mark.called task call ∈ account := by
  obtain ⟨fresh, history, lines⟩ := tells
  rw [history, start, List.append_nil] at called
  rw [← lines]
  exact List.mem_filterMap.mpr ⟨_, List.mem_reverse.mpr called, rfl⟩

end Tells

variable (world : World)

/-- An effect that is recorded tells of itself. -/
theorem tells_record (effect : Effect) :
    world.Tells (.ofEffects [effect]) (world.record effect) :=
  ⟨[effect], rfl, rfl⟩

/-- An increment tells of no call, also if the recorder breaks. -/
theorem tells_count (metric : Metric) (labels : Labels) (amount : Nat) :
    world.Tells [] (world.count metric labels amount) := by
  unfold count
  split
  · exact world.tells_record (.counted metric labels amount)
  · exact (world.tells_record (.recorderFailed metric)).trans (tells_record _ (.notice _))

/-- To wake a task tells of nothing. -/
theorem tells_wake (task : TaskId) : world.Tells [] (world.wake task) := by
  refine .of_eq ?_
  unfold wake
  split <;> rfl

/-- An effect that is brought about tells of itself. -/
theorem tells_emit (effect : Effect) : world.Tells (.ofEffects [effect]) (world.emit effect) := by
  cases effect with
  | counted metric labels amount => exact world.tells_count metric labels amount
  | woken task => exact world.tells_wake task
  | notice | recorderFailed | called | answered | responded | hooked =>
      exact world.tells_record _

/-- The end of a task tells of no call. -/
theorem tells_finish (task : TaskId) (result : TaskResult) :
    world.Tells [] (world.finish task result) := by
  unfold finish
  split
  · exact (Tells.of_eq rfl).trans (tells_wake _ _)
  · exact .of_eq rfl

/-- The start of a task tells of no call. -/
theorem tells_spawn (task : Task) : world.Tells [] (world.spawn task).1 :=
  (Tells.of_eq rfl).trans (tells_wake _ _)

/-- A list of changes tells of the calls and answers among its effects. -/
theorem tells_after (changes : List Change) :
    world.Tells (.ofEffects (Change.effectsOf changes)) (world.after changes) := by
  induction changes generalizing world with
  | nil => exact .of_eq rfl
  | cons change rest ih =>
      have first : world.Tells (.ofEffects change.effect?.toList) (world.apply change) := by
        cases change with
        | effect effect => exact world.tells_emit effect
        | spawn own => exact world.tells_spawn own
        | finish task result => exact world.tells_finish task result
        | setQueue | setEntry | setTask | makeQueue | makeEntry | collect | dismiss | setRegistry
        | setLive | setRecorder | pass => exact .of_eq rfl
      rw [effectsOf_cons, Account.ofEffects_append]
      exact first.trans (ih (world.apply change))

/-- An event tells of the calls and answers among the effects of its transition. -/
theorem Transition.tells {world : World} {event : Event} {changes : List Change}
    (transition : Transition world event changes) :
    world.Tells (.ofEffects (Change.effectsOf changes)) (world.step event).1 := by
  rw [transition.step]
  exact world.tells_after changes

/-! ### Remarks of a client -/

/-- The notice about abandoned entries is neither a call nor an answer. -/
@[simp] theorem remarks_abandonNotices (queue : AckQueue) (final : Bool) (ended : FlushEnd) :
    Effect.Remarks (abandonNotices queue final ended) := by
  unfold abandonNotices
  split
  · split <;> simp [Effect.isRemark]
  · exact Effect.remarks_nil

/-- The notices about a failed broker group are neither calls nor answers. -/
@[simp] theorem remarks_failureNotices (registry : GroupRegistry) (group : GroupRef) :
    Effect.Remarks (failureNotices registry group) := by
  unfold failureNotices
  split <;> simp [Effect.isRemark]

/-- The notices about an announced broker group are neither calls nor answers. -/
@[simp] theorem remarks_announceNotices (registry : GroupRegistry) (group : String) :
    Effect.Remarks (announceNotices registry group) := by
  unfold announceNotices
  split
  · split <;> simp [Effect.isRemark]
  · exact Effect.remarks_nil

/-- The notices about new settings are neither calls nor answers. -/
@[simp] theorem remarks_reloadNotices (live : LiveSettings) (settings : Settings) :
    Effect.Remarks (reloadNotices live settings) :=
  Effect.remarks_notices _ _

/-- The notices about repeated deliveries are neither calls nor answers. -/
@[simp] theorem remarks_repeatedDeliveries (accepted : List Accepted) :
    Effect.Remarks (repeatedDeliveries accepted) :=
  Effect.remarks_notices _ _

/-- The notices about the end of a flush are neither calls nor answers. -/
@[simp] theorem remarks_drainNotices (kind : HandBack) (subject : String) (result : TaskResult) :
    Effect.Remarks (drainNotices kind subject result) := by
  unfold drainNotices
  split
  · split <;> simp [Effect.isRemark]
  · split <;> simp [Effect.isRemark]
  · exact Effect.remarks_nil

/-- The notices about a release that failed are neither calls nor answers. -/
@[simp] theorem remarks_releaseNotices (entry : Option PullEntry) (kind : HandBack)
    (answer : Answer Unit) : Effect.Remarks (releaseNotices entry kind answer) := by
  unfold releaseNotices
  split
  · split <;> simp [Effect.isRemark]
  · exact Effect.remarks_nil

/-- The notices about a refresh that failed are neither calls nor answers. -/
@[simp] theorem remarks_refreshNotices (answer : Answer Unit) :
    Effect.Remarks (refreshNotices answer) := by
  cases answer <;> simp [refreshNotices, Effect.isRemark]

end World

end PullConsumer
