import PullConsumer.Client.Step

/-! # What the small operations leave alone

Everything that a client does is made up of a few small operations: effects are brought about, and
tasks are started and ended. Each is said here as an equation between states, from which it is read
off what the operation leaves as it was.
-/

namespace PullConsumer.World

variable (world : World)

/-! ### Equations -/

/-- A reason to go on concerns the tasks that are ready, and nothing else. -/
theorem wake_eq (task : TaskId) :
    world.wake task = { world with ready := (world.wake task).ready } := by
  unfold wake
  split <;> rfl

/-- An increment only writes into the account. -/
theorem count_eq (metric : Metric) (labels : Labels) (amount : Nat) :
    world.count metric labels amount =
      { world with history := (world.count metric labels amount).history } := by
  unfold count
  split <;> rfl

/-- An effect changes at most which tasks are ready, the counters and the history. -/
theorem emit_eq (effect : Effect) : world.emit effect =
    { world with
      ready := (world.emit effect).ready
      history := (world.emit effect).history } := by
  cases effect with
  | counted metric labels amount =>
      simp only [emit]
      rw [count_eq]
  | woken task =>
      simp only [emit]
      rw [wake_eq]
  | notice | recorderFailed | called | answered | responded | hooked => rfl

/-- Effects reach the account and the tasks that are ready, and nothing else. -/
theorem emitAll_eq (effects : List Effect) : world.emitAll effects =
    { world with
      ready := (world.emitAll effects).ready
      history := (world.emitAll effects).history } := by
  induction effects generalizing world with
  | nil => rfl
  | cons effect rest ih =>
      have later : world.emitAll (effect :: rest) = (world.emit effect).emitAll rest := rfl
      rw [later, ih (world.emit effect), emit_eq world effect]

/-- A new task gets its name and a reason to go on, and nothing else changes. -/
theorem spawn_eq (own : Task) : world.spawn own =
    ({ world with
        tasks := world.tasks.set world.nextTask own
        nextTask := world.nextTask + 1
        ready := if world.nextTask ∈ world.ready then world.ready
          else world.ready ++ [world.nextTask] }, world.nextTask) := by
  simp only [spawn, wake]
  split <;> rfl

/-- A task that ends leaves its result, and the task that waits for it may go on. -/
theorem finish_eq (task : TaskId) (result : TaskResult) : world.finish task result =
    { world with
      tasks := world.tasks.erase task
      results := world.results.set task result
      ready := (world.finish task result).ready } := by
  unfold finish
  split
  · rw [wake_eq]
  · rfl

/-! ### Frames -/

@[simp] theorem frame_wake (task : TaskId) :
    (world.wake task).queues = world.queues ∧ (world.wake task).tasks = world.tasks ∧
      (world.wake task).entries = world.entries ∧ (world.wake task).nextTask = world.nextTask ∧
      (world.wake task).nextQueue = world.nextQueue ∧
      (world.wake task).history = world.history := by
  rw [wake_eq]
  exact ⟨rfl, rfl, rfl, rfl, rfl, rfl⟩

@[simp] theorem frame_count (metric : Metric) (labels : Labels) (amount : Nat) :
    (world.count metric labels amount).queues = world.queues ∧
      (world.count metric labels amount).tasks = world.tasks ∧
      (world.count metric labels amount).entries = world.entries ∧
      (world.count metric labels amount).nextTask = world.nextTask ∧
      (world.count metric labels amount).nextQueue = world.nextQueue := by
  rw [count_eq]
  exact ⟨rfl, rfl, rfl, rfl, rfl⟩

@[simp] theorem frame_emit (effect : Effect) :
    (world.emit effect).queues = world.queues ∧ (world.emit effect).tasks = world.tasks ∧
      (world.emit effect).entries = world.entries ∧
      (world.emit effect).nextTask = world.nextTask ∧
      (world.emit effect).nextQueue = world.nextQueue := by
  rw [emit_eq]
  exact ⟨rfl, rfl, rfl, rfl, rfl⟩

@[simp] theorem frame_emitAll (effects : List Effect) :
    (world.emitAll effects).queues = world.queues ∧ (world.emitAll effects).tasks = world.tasks ∧
      (world.emitAll effects).entries = world.entries ∧
      (world.emitAll effects).nextTask = world.nextTask ∧
      (world.emitAll effects).nextQueue = world.nextQueue := by
  rw [emitAll_eq]
  exact ⟨rfl, rfl, rfl, rfl, rfl⟩

@[simp] theorem frame_finish (task : TaskId) (result : TaskResult) :
    (world.finish task result).queues = world.queues ∧
      (world.finish task result).tasks = world.tasks.erase task ∧
      (world.finish task result).entries = world.entries ∧
      (world.finish task result).nextTask = world.nextTask ∧
      (world.finish task result).nextQueue = world.nextQueue := by
  rw [finish_eq]
  exact ⟨rfl, rfl, rfl, rfl, rfl⟩

@[simp] theorem frame_spawn (own : Task) :
    (world.spawn own).1.queues = world.queues ∧
      (world.spawn own).1.tasks = world.tasks.set world.nextTask own ∧
      (world.spawn own).1.entries = world.entries ∧
      (world.spawn own).1.nextTask = world.nextTask + 1 ∧
      (world.spawn own).1.nextQueue = world.nextQueue := by
  rw [spawn_eq]
  exact ⟨rfl, rfl, rfl, rfl, rfl⟩

/-! ### Results and entries -/

@[simp] theorem wake_rest (task : TaskId) :
    (world.wake task).results = world.results ∧
      (world.wake task).nextEntry = world.nextEntry := by
  rw [wake_eq]
  exact ⟨rfl, rfl⟩

@[simp] theorem count_rest (metric : Metric) (labels : Labels) (amount : Nat) :
    (world.count metric labels amount).results = world.results ∧
      (world.count metric labels amount).nextEntry = world.nextEntry := by
  rw [count_eq]
  exact ⟨rfl, rfl⟩

@[simp] theorem emit_rest (effect : Effect) :
    (world.emit effect).results = world.results ∧
      (world.emit effect).nextEntry = world.nextEntry := by
  rw [emit_eq]
  exact ⟨rfl, rfl⟩

@[simp] theorem emitAll_rest (effects : List Effect) :
    (world.emitAll effects).results = world.results ∧
      (world.emitAll effects).nextEntry = world.nextEntry := by
  rw [emitAll_eq]
  exact ⟨rfl, rfl⟩

@[simp] theorem finish_rest (task : TaskId) (result : TaskResult) :
    (world.finish task result).results = world.results.set task result ∧
      (world.finish task result).nextEntry = world.nextEntry := by
  rw [finish_eq]
  exact ⟨rfl, rfl⟩

@[simp] theorem spawn_rest (own : Task) :
    (world.spawn own).1.results = world.results ∧
      (world.spawn own).1.nextEntry = world.nextEntry := by
  rw [spawn_eq]
  exact ⟨rfl, rfl⟩

/-! ### Steps of flushes -/

/-- A flush that ends brings effects about, and ends its task with its outcome. -/
theorem concludeDrain_eq (task : TaskId) (name : QueueId) (final : Bool) (ended : FlushEnd) :
    ∃ effects, world.concludeDrain task name final ended =
      (world.emitAll effects).finish task (resultOf ended) := by
  unfold concludeDrain
  split
  · dsimp only
    split
    · exact ⟨[.notice _], rfl⟩
    · exact ⟨[], rfl⟩
  · exact ⟨[], rfl⟩

/-- A step of a flush changes its queue and brings effects about. If the flush has ended, so does
its task. -/
theorem adopt_eq (task : TaskId) (name : QueueId) (step : FlushStep) :
    ∃ effects, world.adopt task name step =
      match step.ended with
      | some ended =>
        ((world.setQueue name step.queue).emitAll effects).finish task (resultOf ended)
      | none => (world.setQueue name step.queue).emitAll effects := by
  cases ends : step.ended with
  | none =>
      simp only [adopt, ends]
      exact ⟨step.effects, rfl⟩
  | some ended =>
      simp only [adopt, ends]
      split
      · rename_i same _
        cases same
        obtain ⟨effects, concludes⟩ := concludeDrain_eq
          ((world.setQueue name step.queue).emitAll step.effects) task name _ ended
        rw [concludes]
        exact ⟨step.effects ++ effects, by rw [emitAll, emitAll, emitAll, List.foldl_append]⟩
      · rename_i same _
        cases same
        exact ⟨step.effects, rfl⟩
      · rename_i absent
        cases absent

/-- A step of a flush replaces its queue, and its task goes with the flush. -/
theorem frame_adopt (task : TaskId) (name : QueueId) (step : FlushStep) :
    (world.adopt task name step).queues = world.queues.set name step.queue ∧
      (world.adopt task name step).tasks =
        (if step.ended = none then world.tasks else world.tasks.erase task) ∧
      (world.adopt task name step).entries = world.entries ∧
      (world.adopt task name step).nextTask = world.nextTask ∧
      (world.adopt task name step).nextQueue = world.nextQueue := by
  obtain ⟨effects, same⟩ := world.adopt_eq task name step
  rw [same]
  cases step.ended <;> simp [setQueue]

/-- A flush that ends is the result of its task. -/
theorem adopt_results (task : TaskId) (name : QueueId) {step : FlushStep} {ended : FlushEnd}
    (ends : step.ended = some ended) :
    (world.adopt task name step).results = world.results.set task (resultOf ended) := by
  obtain ⟨effects, same⟩ := world.adopt_eq task name step
  rw [same, ends]
  simp [setQueue]

end PullConsumer.World
