import PullConsumer.Proofs.Client.Frames

/-! # Elementary changes

All that a client does is a list of elementary changes (`Change`), brought about one after the other
(`World.after`). The parts that several procedures share are named here as lists of changes, each
with the operation of the client that it describes and with what it consists of. A relation between
states that holds of each change of a list holds of the whole list (`World.after_rel`).
-/

namespace PullConsumer

/-- An elementary change of a client. -/
inductive Change
  /-- An effect is brought about. -/
  | effect (effect : Effect)
  | setQueue (name : QueueId) (queue : AckQueue)
  | setEntry (name : EntryId) (entry : PullEntry)
  | setTask (task : TaskId) (own : Task)
  /-- A queue is made, which uses up a name. -/
  | makeQueue (name : QueueId) (queue : AckQueue)
  /-- A pull entry is made under an unused name. -/
  | makeEntry (entry : PullEntry)
  /-- A task is started under an unused name. -/
  | spawn (own : Task)
  /-- A task ends with a result. -/
  | finish (task : TaskId) (result : TaskResult)
  /-- The result of a task is taken by the task that waited for it. -/
  | collect (task : TaskId)
  /-- A task is dropped without a result. -/
  | dismiss (task : TaskId)
  | setRegistry (registry : GroupRegistry)
  | setLive (live : LiveSettings)
  | setRecorder (works : Bool)
  /-- Time passes. -/
  | pass (milliseconds : Nat)

/-- The changes that bring effects about in order. -/
def Change.effects (effects : List Effect) : List Change :=
  effects.map .effect

/-- The effects that a change brings about, one at most. -/
def Change.effect? : Change → Option Effect
  | .effect brought => some brought
  | _ => none

/-- The effects that changes bring about in order. -/
def Change.effectsOf (changes : List Change) : List Effect :=
  changes.filterMap Change.effect?

/-- The queue whose flush a task runs. A bounded flush that has not begun runs none. -/
def Task.flushOf? : Task → Option QueueId
  | .scheduledFlush queue _ => some queue
  | .drain queue _ _ (some _) _ => some queue
  | _ => none

/-- The queue that a task flushes, or is to flush once it begins. -/
def Task.worksOn? : Task → Option QueueId
  | .scheduledFlush queue _ | .drain queue _ _ _ _ => some queue
  | _ => none

/-- Whether a task closes its queue for good. -/
def Task.isFinal : Task → Bool
  | .drain _ _ final _ _ => final
  | _ => false

namespace World

/-- Brings one elementary change about. -/
def apply (world : World) : Change → World
  | .effect effect => world.emit effect
  | .setQueue name queue => world.setQueue name queue
  | .setEntry name entry => world.setEntry name entry
  | .setTask task own => world.setTask task own
  | .makeQueue name queue =>
    { world with
      queues := world.queues.set name queue
      nextQueue := world.nextQueue + 1 }
  | .makeEntry entry =>
    { world with
      entries := world.entries.set world.nextEntry entry
      nextEntry := world.nextEntry + 1 }
  | .spawn own => (world.spawn own).1
  | .finish task result => world.finish task result
  | .collect task => { world with results := world.results.erase task }
  | .dismiss task => { world with tasks := world.tasks.erase task }
  | .setRegistry registry => { world with registry := registry }
  | .setLive live => { world with live := live }
  | .setRecorder works => { world with recorderWorks := works }
  | .pass milliseconds => { world with clock := world.clock + milliseconds }

/-- The state after changes in order. -/
def after (world : World) (changes : List Change) : World :=
  changes.foldl apply world

section After

variable (world : World)

@[simp] theorem after_nil : world.after [] = world := rfl

@[simp] theorem after_cons (change : Change) (rest : List Change) :
    world.after (change :: rest) = (world.apply change).after rest := rfl

@[simp] theorem after_append (first second : List Change) :
    world.after (first ++ second) = (world.after first).after second :=
  List.foldl_append

@[simp] theorem after_effects (effects : List Effect) :
    world.after (Change.effects effects) = world.emitAll effects :=
  List.foldl_map

/-- A preorder on states that holds of every single change of a list holds of the list. -/
theorem after_rel (related : World → World → Prop) (refl : ∀ world, related world world)
    (trans : ∀ {before middle after}, related before middle → related middle after →
      related before after) (changes : List Change)
    (single : ∀ change ∈ changes, ∀ world : World, related world (world.apply change)) :
    related world (world.after changes) := by
  induction changes generalizing world with
  | nil => exact refl world
  | cons change rest ih =>
      exact trans (single change List.mem_cons_self world)
        (ih _ fun other member => single other (List.mem_cons_of_mem change member))

/-- What every single change of a list keeps, the list keeps. -/
theorem after_keeps {α : Type} (read : World → α) {changes : List Change}
    (single : ∀ change ∈ changes, ∀ world : World, read (world.apply change) = read world) :
    read (world.after changes) = read world :=
  after_rel world (fun before after => read after = read before) (fun _ => rfl)
    (fun first second => second.trans first) changes single

end After

/-! ### The changes of procedures -/

/-- The end of the task that runs the schedule of a queue. -/
def halting (queue : AckQueue) : List Change :=
  (queue.loop.map Change.dismiss).toList

/-- The end of the schedule of a queue. -/
def stopping (name : QueueId) (queue : AckQueue) : List Change :=
  .setQueue name queue.stopSchedule :: halting queue

/-- The notice about the entries that the end of a final flush gives up. -/
def abandonNotices (queue : AckQueue) (final : Bool) : FlushEnd → List Effect
  | .outcome outcome =>
    if final ∧ 0 < queue.outstanding then
      [.notice (.entriesAbandoned queue.assignment.subject queue.assignment.partition
        queue.outstanding outcome)]
    else []
  | .panicked _ => []

/-- The end of a flush, which leaves its queue in some state. -/
def concluding (task : TaskId) (queue : AckQueue) (final : Bool) (ended : FlushEnd) :
    List Change :=
  Change.effects (abandonNotices queue final ended) ++ [.finish task (resultOf ended)]

/-- A step of a flush, with its end if the flush has ended. -/
def adopting (task : TaskId) (name : QueueId) (final : Bool) (step : FlushStep) : List Change :=
  .setQueue name step.queue :: Change.effects step.effects ++
    match step.ended with
    | some ended => concluding task step.queue final ended
    | none => []

/-- A flush is dropped from its queue. -/
def dropping (task : TaskId) (name : QueueId) (queue : AckQueue) : List Change :=
  .setQueue name (queue.closeFlush task).1 :: Change.effects (queue.closeFlush task).2

/-- A failed pull is noted. -/
def failing (world : World) (entry : PullEntry) (group : GroupRef) : List Change :=
  [.effect (.counted .pullFail (labelsOf entry) 1),
    .setRegistry (world.registry.markFailed group)] ++
    Change.effects (failureNotices world.registry group)

/-- A teardown marks its entry. -/
def marking (kind : HandBack) (name : EntryId) (entry : PullEntry) : List Change :=
  match kind with
  | .destroy => [.setEntry name { entry with destroyed := true }]
  | .offline => []

/-- The lock of an entry is released, unless that was asked before. -/
def releasing (task : TaskId) (name : EntryId) (kind : HandBack) (entry : PullEntry) :
    List Change :=
  if entry.lockReleased then [.finish task .done]
  else [.setEntry name { entry with lockReleased := true },
    .setTask task (.handBack name kind .releasing),
    .effect (.called task (.release entry.assignment.subject entry.assignment.group
      entry.assignment.partition entry.assignment.brokerGroup entry.assignment.strategy))]

/-- The notices about a failure to release a lock. -/
def releaseNotices (entry : Option PullEntry) (kind : HandBack) : Answer Unit → List Effect
  | .failed fault =>
    match entry, kind with
    | none, _ => []
    | some _, .destroy => [.notice (.bestEffortFailed "release consumption lock" fault)]
    | some entry, .offline =>
      [.notice (.offlineReleaseFailed entry.assignment.subject fault)]
  | _ => []

/-- The notices about a refresh that failed. -/
def refreshNotices : Answer Unit → List Effect
  | .failed fault => [.notice (.bestEffortFailed "refresh broker metadata" fault)]
  | _ => []

/-- How a task ends that only waits for an answer. -/
def answerEnd : Answer Unit → TaskResult
  | .panicked text => .panicked text
  | _ => .done

/-! ### What they consist of -/

section Members

variable {holds : Change → Prop}

-- These rules apply before the body of the quantifier is looked at, so that a condition is read off
-- each change of a list, and not off an unknown one.

@[simp ↓] theorem forall_nil : (∀ change ∈ ([] : List Change), holds change) ↔ True :=
  iff_of_true (List.forall_mem_nil holds) trivial

@[simp ↓] theorem forall_cons {first : Change} {rest : List Change} :
    (∀ change ∈ first :: rest, holds change) ↔ holds first ∧ ∀ change ∈ rest, holds change :=
  List.forall_mem_cons

@[simp ↓] theorem forall_append {first rest : List Change} :
    (∀ change ∈ first ++ rest, holds change) ↔
      (∀ change ∈ first, holds change) ∧ ∀ change ∈ rest, holds change :=
  List.forall_mem_append

@[simp ↓] theorem forall_effects {effects : List Effect} :
    (∀ change ∈ Change.effects effects, holds change) ↔
      ∀ effect ∈ effects, holds (.effect effect) :=
  List.forall_mem_map

/-- The end of a schedule concerns the task that runs it, if there is one. -/
@[simp ↓] theorem forall_halting {queue : AckQueue} :
    (∀ change ∈ halting queue, holds change) ↔
      ∀ loop, queue.loop = some loop → holds (.dismiss loop) := by
  cases loop : queue.loop <;> simp [halting, loop]

/-- A schedule that ends is taken off its queue, and its task is dropped. -/
@[simp ↓] theorem forall_stopping {name : QueueId} {queue : AckQueue} :
    (∀ change ∈ stopping name queue, holds change) ↔
      holds (.setQueue name queue.stopSchedule) ∧
        ∀ loop, queue.loop = some loop → holds (.dismiss loop) := by
  simp [stopping]

/-- A flush that ends gives notice of what it gives up, and its task ends with the outcome. -/
@[simp ↓] theorem forall_concluding {task : TaskId} {queue : AckQueue} {final : Bool}
    {ended : FlushEnd} :
    (∀ change ∈ concluding task queue final ended, holds change) ↔
      (∀ effect ∈ abandonNotices queue final ended, holds (.effect effect)) ∧
        holds (.finish task (resultOf ended)) := by
  simp [concluding, or_imp, forall_and]

/-- A step of a flush sets its queue, brings its effects about, and concludes the flush if it has
ended. -/
@[simp ↓] theorem forall_adopting {task : TaskId} {name : QueueId} {final : Bool}
    {step : FlushStep} :
    (∀ change ∈ adopting task name final step, holds change) ↔
      holds (.setQueue name step.queue) ∧ (∀ effect ∈ step.effects, holds (.effect effect)) ∧
        ∀ ended, step.ended = some ended →
          ∀ change ∈ concluding task step.queue final ended, holds change := by
  cases ended : step.ended <;> simp [adopting, ended, or_imp, forall_and]

/-- A flush that is dropped leaves its queue, with the effects of handing on the lock. -/
@[simp ↓] theorem forall_dropping {task : TaskId} {name : QueueId} {queue : AckQueue} :
    (∀ change ∈ dropping task name queue, holds change) ↔
      holds (.setQueue name (queue.closeFlush task).1) ∧
        ∀ effect ∈ (queue.closeFlush task).2, holds (.effect effect) := by
  simp [dropping]

/-- A failed pull is counted and noted against its broker group. -/
@[simp ↓] theorem forall_failing {world : World} {entry : PullEntry} {group : GroupRef} :
    (∀ change ∈ world.failing entry group, holds change) ↔
      holds (.effect (.counted .pullFail (labelsOf entry) 1)) ∧
        holds (.setRegistry (world.registry.markFailed group)) ∧
          ∀ effect ∈ failureNotices world.registry group, holds (.effect effect) := by
  simp [failing]

/-- Only a teardown marks its entry. -/
@[simp ↓] theorem forall_marking {kind : HandBack} {name : EntryId} {entry : PullEntry} :
    (∀ change ∈ marking kind name entry, holds change) ↔
      (kind = .destroy → holds (.setEntry name { entry with destroyed := true })) := by
  cases kind <;> simp [marking]

/-- A release marks its entry and calls the broker, or ends the hand-back if it was asked before. -/
@[simp ↓] theorem forall_releasing {task : TaskId} {name : EntryId} {kind : HandBack}
    {entry : PullEntry} :
    (∀ change ∈ releasing task name kind entry, holds change) ↔
      if entry.lockReleased then holds (.finish task .done)
      else holds (.setEntry name { entry with lockReleased := true }) ∧
        holds (.setTask task (.handBack name kind .releasing)) ∧
        holds (.effect (.called task (.release entry.assignment.subject entry.assignment.group
          entry.assignment.partition entry.assignment.brokerGroup entry.assignment.strategy))) := by
  unfold releasing
  split <;> simp

end Members

section Effects

@[simp] theorem effectsOf_nil : Change.effectsOf [] = [] := rfl

@[simp] theorem effectsOf_cons (change : Change) (rest : List Change) :
    Change.effectsOf (change :: rest) = change.effect?.toList ++ Change.effectsOf rest := by
  cases change <;> rfl

@[simp] theorem effectsOf_append (first second : List Change) :
    Change.effectsOf (first ++ second) = Change.effectsOf first ++ Change.effectsOf second :=
  List.filterMap_append

@[simp] theorem effectsOf_effects (effects : List Effect) :
    Change.effectsOf (Change.effects effects) = effects := by
  rw [Change.effectsOf, Change.effects, List.filterMap_map]
  exact List.filterMap_some

/-- The end of the task of a schedule has no effect of its own. -/
@[simp] theorem effectsOf_halting (queue : AckQueue) :
    Change.effectsOf (halting queue) = [] := by
  cases loop : queue.loop <;> simp [halting, loop, Change.effect?]

/-- A schedule ends in silence. -/
@[simp] theorem effectsOf_stopping (name : QueueId) (queue : AckQueue) :
    Change.effectsOf (stopping name queue) = [] := by
  simp [stopping, Change.effect?]

/-- A flush that ends has the notice about abandoned entries as its only effect. -/
@[simp] theorem effectsOf_concluding (task : TaskId) (queue : AckQueue) (final : Bool)
    (ended : FlushEnd) :
    Change.effectsOf (concluding task queue final ended) = abandonNotices queue final ended := by
  simp [concluding, Change.effect?]

/-- A step of a flush has its own effects, and those of its end if it has ended. -/
@[simp] theorem effectsOf_adopting (task : TaskId) (name : QueueId) (final : Bool)
    (step : FlushStep) :
    Change.effectsOf (adopting task name final step) =
      step.effects ++ step.ended.toList.flatMap (abandonNotices step.queue final) := by
  cases ended : step.ended <;> simp [adopting, ended, Change.effect?]

/-- A dropped flush has the effects of leaving its queue. -/
@[simp] theorem effectsOf_dropping (task : TaskId) (name : QueueId) (queue : AckQueue) :
    Change.effectsOf (dropping task name queue) = (queue.closeFlush task).2 := by
  simp [dropping, Change.effect?]

/-- A failed pull is counted, and announced if it takes the group out of use. -/
@[simp] theorem effectsOf_failing (world : World) (entry : PullEntry) (group : GroupRef) :
    Change.effectsOf (world.failing entry group) =
      .counted .pullFail (labelsOf entry) 1 :: failureNotices world.registry group := by
  simp [failing, Change.effect?]

/-- A teardown marks its entry in silence. -/
@[simp] theorem effectsOf_marking (kind : HandBack) (name : EntryId) (entry : PullEntry) :
    Change.effectsOf (marking kind name entry) = [] := by
  cases kind <;> rfl

/-- A release calls the broker with the names of the assignment, once per entry. -/
@[simp] theorem effectsOf_releasing (task : TaskId) (name : EntryId) (kind : HandBack)
    (entry : PullEntry) :
    Change.effectsOf (releasing task name kind entry) =
      if entry.lockReleased then []
      else [.called task (.release entry.assignment.subject entry.assignment.group
        entry.assignment.partition entry.assignment.brokerGroup entry.assignment.strategy)] := by
  unfold releasing
  split <;> rfl

end Effects

/-! ### What they do -/

variable {world : World}

/-- The changes that end a schedule are what the client does to stop it. -/
theorem stopping_eq {name : QueueId} {queue : AckQueue}
    (here : world.queues.get? name = some queue) :
    world.after (stopping name queue) = world.stopSchedule name := by
  simp only [stopping, halting, stopSchedule, here]
  cases queue.loop <;> rfl

/-- The changes that conclude a flush are what the client does at the end of a bounded flush. -/
theorem concluding_eq {task : TaskId} {name : QueueId} {queue : AckQueue}
    (here : world.queues.get? name = some queue) (final : Bool) (ended : FlushEnd) :
    world.after (concluding task queue final ended) =
      world.concludeDrain task name final ended := by
  cases ended with
  | outcome outcome =>
      simp only [concluding, concludeDrain, here, abandonNotices]
      split <;> rfl
  | panicked text =>
      simp only [concluding, concludeDrain, here, abandonNotices]
      rfl

/-- The changes of a step of a flush are what the client adopts from it. -/
theorem adopting_eq {task : TaskId} {own : Task} {name : QueueId}
    (there : world.tasks.get? task = some own) (runs : own.flushOf? = some name)
    (step : FlushStep) :
    world.after (adopting task name own.isFinal step) = world.adopt task name step := by
  obtain ⟨queues, tasks, _⟩ := frame_emitAll (world.setQueue name step.queue) step.effects
  have here : ((world.setQueue name step.queue).emitAll step.effects).queues.get? name =
      some step.queue := by
    rw [queues]
    exact (Table.get?_set ..).trans (if_pos rfl)
  have still : ((world.setQueue name step.queue).emitAll step.effects).tasks.get? task =
      some own := by
    rw [tasks]
    exact there
  simp only [adopting, adopt, List.cons_append, after_cons, after_append, after_effects, apply,
    still]
  cases step.ended with
  | none => rfl
  | some ended =>
      dsimp only
      rw [concluding_eq here]
      cases own with
      | drain | schedule | pull | handBack | refresh => first | rfl | cases runs
      | scheduledFlush queue parent =>
          cases ended with
          | outcome outcome =>
              simp only [concludeDrain, here, Task.isFinal, Bool.false_eq_true, false_and, if_false]
              rfl
          | panicked text => simp only [concludeDrain, here]

/-- The changes that drop a flush are what the client does to close it. -/
theorem dropping_eq {task : TaskId} {name : QueueId} {queue : AckQueue}
    (here : world.queues.get? name = some queue) :
    world.after (dropping task name queue) =
      world.onQueue name fun queue => queue.closeFlush task := by
  simp only [dropping, onQueue, here, after_cons, after_effects, apply]

/-- The changes after a failed pull are what the client does to mark it as failed. -/
theorem failing_eq (world : World) (entry : PullEntry) (group : GroupRef) :
    world.after (world.failing entry group) = world.markFailed entry group := by
  have counted : (world.count .pullFail (labelsOf entry) 1).registry = world.registry := by
    rw [count_eq]
  simp only [failing, markFailed, after_append, after_cons, after_nil, after_effects, apply, emit,
    counted]

/-- The changes of a release are what the client does to begin it. -/
theorem releasing_eq (world : World) (task : TaskId) (name : EntryId) (kind : HandBack)
    (entry : PullEntry) :
    world.after (releasing task name kind entry) = world.beginRelease task name kind entry := by
  unfold releasing beginRelease
  split <;> rfl

end World

end PullConsumer
