import PullConsumer.Proofs.Client.Lines
import PullConsumer.Proofs.Client.Tables
import PullConsumer.Proofs.Queue.Rounds

/-! # The queues of a client and their tasks

The flushes of a queue and its schedule are run by tasks of the client (`World.Tidy`). Most changes
leave a queue and these tasks alone (`Change.LeavesAlone`), and a list of such changes keeps them in
order (`World.Tidy.left_alone`). So does a list that changes the queue alone (`World.Tidy.changed`),
or a flush of it along with the task that runs it (`World.Tidy.flushed`).
-/

namespace PullConsumer

/-- A task works on the queue whose flush it runs. -/
theorem Task.worksOn?_of_flushOf? {own : Task} {name : QueueId} (runs : own.flushOf? = some name) :
    own.worksOn? = some name := by
  cases own with
  | scheduledFlush => exact runs
  | drain queue timeout final deadline parent =>
      cases deadline with
      | none => cases runs
      | some deadline => exact runs
  | schedule | pull | handBack | refresh => cases runs

/-- A queue as it is made under some settings, or made and started at once. -/
inductive AckQueue.Made (assignment : Assignment) (settings : Settings) : AckQueue → Prop
  | opened : Made assignment settings (.ofAssignment assignment settings)
  | started (loop : TaskId) :
      Made assignment settings ((AckQueue.ofAssignment assignment settings).startSchedule loop)

/-- The making of a queue is a stride of the fresh one. -/
theorem AckQueue.Made.stride {assignment : Assignment} {settings : Settings} {queue : AckQueue}
    (made : Made assignment settings queue) :
    (AckQueue.ofAssignment assignment settings).Stride [] queue := by
  cases made with
  | opened => exact .still _
  | started loop => exact .move (.background (.start loop rfl))

namespace World

variable {world : World} {changes : List Change} {name : QueueId} {task : TaskId}
  {queue next : AckQueue}

/-- New tasks and queues get unused names. -/
structure Numbered (world : World) : Prop where
  tasks : ∀ task, world.nextTask ≤ task → world.tasks.get? task = none
  queues : ∀ name, world.nextQueue ≤ name → world.queues.get? name = none

namespace Numbered

theorem lt_nextTask (numbered : world.Numbered) {own : Task}
    (here : world.tasks.get? task = some own) : task < world.nextTask := by
  refine Nat.lt_of_not_le fun high => ?_
  exact Option.some_ne_none own (here.symm.trans (numbered.tasks task high))

theorem lt_nextQueue (numbered : world.Numbered) (here : world.queues.get? name = some queue) :
    name < world.nextQueue := by
  refine Nat.lt_of_not_le fun high => ?_
  exact Option.some_ne_none queue (here.symm.trans (numbered.queues name high))

/-- A task with an unused name runs no flush. -/
theorem flushOf? (numbered : world.Numbered) (unused : world.nextTask ≤ task) :
    world.flushOf? task = none := by
  rw [World.flushOf?, numbered.tasks task unused]
  rfl

end Numbered

/-- Whether a task is the schedule of a queue, or has ended. -/
def MayLoop (world : World) (name : QueueId) (task : TaskId) : Prop :=
  world.tasks.get? task = none ∨ world.tasks.get? task = some (.schedule name)

/-- The task of a schedule runs no flush. -/
theorem MayLoop.flushOf? (may : world.MayLoop name task) : world.flushOf? task = none := by
  rcases may with none | schedule
  · rw [World.flushOf?, none]
    rfl
  · exact flushOf?_of_get? schedule

/-- A queue is sound, its flushes are those of the tasks that run one, and its schedule is run by
the task it names unless that has ended. -/
structure Tidy (world : World) (name : QueueId) : Prop where
  sound : ∀ queue, world.queues.get? name = some queue → queue.Sound
  flushes : ∀ task, world.flushOf? task = some name ↔
    ∃ queue, world.queues.get? name = some queue ∧ (queue.flushes.get? task).isSome = true
  loop : ∀ queue task, world.queues.get? name = some queue → queue.loop = some task →
    task < world.nextTask ∧ world.MayLoop name task

namespace Tidy

/-- The flushes of a queue that is there are those of the tasks that run one. -/
theorem runs (tidy : world.Tidy name) (here : world.queues.get? name = some queue)
    (task : TaskId) :
    world.flushOf? task = some name ↔ (queue.flushes.get? task).isSome = true := by
  rw [tidy.flushes task]
  constructor
  · rintro ⟨other, there, runs⟩
    rw [Option.some.inj (here.symm.trans there)]
    exact runs
  · exact fun runs => ⟨queue, here, runs⟩

/-- A flush of a queue is run by a task. -/
theorem owns (tidy : world.Tidy name) (here : world.queues.get? name = some queue)
    {phase : FlushPhase} (runs : queue.flushes.get? task = some phase) :
    world.flushOf? task = some name := by
  refine (tidy.runs here task).mpr ?_
  rw [runs]
  rfl

/-- A task that runs no flush of a queue is not among its flushes. -/
theorem absent (tidy : world.Tidy name) (here : world.queues.get? name = some queue)
    (elsewhere : world.flushOf? task ≠ some name) : queue.flushes.get? task = none := by
  cases found : queue.flushes.get? task with
  | none => rfl
  | some phase => exact absurd (tidy.owns here found) elsewhere

/-- Where a queue that is there is sound and its tasks are in order, all of it is. -/
theorem of_get? (there : world.queues.get? name = some queue) (sound : queue.Sound)
    (flushes : ∀ task, world.flushOf? task = some name ↔ (queue.flushes.get? task).isSome = true)
    (loop : ∀ task, queue.loop = some task → task < world.nextTask ∧ world.MayLoop name task) :
    world.Tidy name where
  sound other found := by
    rw [← Option.some.inj (there.symm.trans found)]
    exact sound
  flushes task := by
    rw [flushes task]
    constructor
    · exact fun runs => ⟨queue, there, runs⟩
    · rintro ⟨other, found, runs⟩
      rw [Option.some.inj (there.symm.trans found)]
      exact runs
  loop other task found loops := by
    rw [← Option.some.inj (there.symm.trans found)] at loops
    exact loop task loops

end Tidy

end World

/-! ### Names -/

/-- Whether the queues and tasks that a change sets are in use, or get the next name. -/
@[simp] def Change.UsesNames (world : World) : Change → Prop
  | .setQueue name _ => name < world.nextQueue
  | .makeQueue name _ => name ≤ world.nextQueue
  | .setTask task _ => task < world.nextTask
  | _ => True

/-- Names that are not in use stay so until they are given away. -/
theorem World.Numbered.of_changes {world : World} {changes : List Change}
    (numbered : world.Numbered) (uses : ∀ change ∈ changes, change.UsesNames world) :
    (world.after changes).Numbered := by
  -- The names that are in use at first stay in use.
  have keeps := after_rel world (fun before after =>
    before.Numbered ∧ world.nextTask ≤ before.nextTask ∧ world.nextQueue ≤ before.nextQueue →
      after.Numbered ∧ world.nextTask ≤ after.nextTask ∧ world.nextQueue ≤ after.nextQueue)
    (fun _ => id) (fun first second => second ∘ first) changes ?_
  · exact (keeps ⟨numbered, Nat.le_refl _, Nat.le_refl _⟩).1
  · rintro change member before ⟨⟨tasks, queues⟩, oldTasks, oldQueues⟩
    have used := uses change member
    obtain ⟨laterTasks, laterQueues, _⟩ := names_after before [change]
    refine ⟨⟨fun task high => ?_, fun name high => ?_⟩, Nat.le_trans oldTasks laterTasks,
      Nat.le_trans oldQueues laterQueues⟩
    · have unused := tasks task (Nat.le_trans laterTasks high)
      cases change with
      | setTask target own =>
          have different : target ≠ task :=
            Nat.ne_of_lt (Nat.lt_of_lt_of_le (Nat.lt_of_lt_of_le used oldTasks) high)
          exact ((Table.get?_set ..).trans (if_neg different)).trans unused
      | spawn own =>
          simp only [apply, frame_spawn] at high ⊢
          rw [Table.get?_set, if_neg (Nat.ne_of_lt high), unused]
      | finish target | dismiss target =>
          simp only [apply, frame_finish, Table.get?_erase, unused, ite_self]
      | _ => simpa [apply, setQueue, setEntry] using unused
    · have unused := queues name (Nat.le_trans laterQueues high)
      cases change with
      | setQueue target queue =>
          have different : target ≠ name :=
            Nat.ne_of_lt (Nat.lt_of_lt_of_le (Nat.lt_of_lt_of_le used oldQueues) high)
          exact ((Table.get?_set ..).trans (if_neg different)).trans unused
      | makeQueue target queue =>
          have different : target ≠ name :=
            Nat.ne_of_lt (Nat.lt_of_le_of_lt (Nat.le_trans used oldQueues) high)
          exact ((Table.get?_set ..).trans (if_neg different)).trans unused
      | _ => simpa [apply, setTask, setEntry] using unused

/-! ### Changes that leave a queue alone -/

/-- Whether a change, made by a client that was in some state, neither begins nor ends a flush of a
queue, nor turns the task of its schedule into another. -/
@[simp] def Change.SparesTasks (world : World) (name : QueueId) : Change → Prop
  | .setTask task own =>
    own.flushOf? ≠ some name ∧ ∃ old, world.tasks.get? task = some old ∧
      old.flushOf? ≠ some name ∧ old ≠ .schedule name
  | .spawn own => own.flushOf? ≠ some name
  | .finish task _ | .dismiss task => world.flushOf? task ≠ some name
  | _ => True

/-- Whether a change leaves the tasks alone that run the schedule of a queue. -/
@[simp] def Change.SparesSchedule (world : World) (name : QueueId) : Change → Prop
  | .setTask task _ | .finish task _ | .dismiss task =>
    world.tasks.get? task ≠ some (.schedule name)
  | _ => True

/-- Whether a change leaves a queue and its tasks alone. -/
@[simp] def Change.LeavesAlone (world : World) (name : QueueId) (change : Change) : Prop :=
  change.queue? ≠ some name ∧ change.SparesTasks world name ∧ change.SparesSchedule world name

namespace World

variable {world : World} {changes : List Change} {name : QueueId} {task : TaskId}
  {queue next : AckQueue}

/-- A task begins or ends no flush of the queue if the changes about it spare the queue, and so do
the new tasks. -/
theorem flushOf?_after (spares : ∀ change ∈ changes, change.task? = some task ∨
    change.task? = none → change.SparesTasks world name) (numbered : world.Numbered) :
    (world.after changes).flushOf? task = some name ↔ world.flushOf? task = some name := by
  constructor
  · intro runs
    obtain ⟨own, there, flushes⟩ := Option.bind_eq_some_iff.mp runs
    rcases task_found there with before | set | ⟨_, new⟩
    · exact (flushOf?_of_get? before).trans flushes
    · exact absurd flushes (spares _ set (.inl rfl)).1
    · exact absurd flushes (spares _ new (.inr rfl))
  · intro runs
    obtain ⟨own, here, flushes⟩ := Option.bind_eq_some_iff.mp runs
    refine (congrArg (·.bind Task.flushOf?) (task_kept (numbered.lt_nextTask here) ?_)).trans runs
    intro change member about
    have spared := spares change member (.inl about)
    cases change with
    | setTask other own =>
        cases about
        obtain ⟨_, old, present, elsewhere, _⟩ := spared
        cases here.symm.trans present
        exact elsewhere flushes
    | finish other | dismiss other =>
        cases about
        exact spared runs
    | _ => cases about

/-- The task that runs the schedule of the queue goes on or ends. -/
theorem mayLoop_after (spares : ∀ change ∈ changes, change.task? = some task →
    change.SparesTasks world name) (used : task < world.nextTask)
    (may : world.MayLoop name task) : (world.after changes).MayLoop name task := by
  cases there : (world.after changes).tasks.get? task with
  | none => exact .inl there
  | some own =>
      right
      rcases task_found there with before | set | ⟨high, _⟩
      · rcases may with gone | schedule
        · exact absurd (before.symm.trans gone) (Option.some_ne_none own)
        · exact there.trans (before.symm.trans schedule)
      · obtain ⟨_, old, present, _, other⟩ := spares _ set rfl
        rcases may with gone | schedule
        · exact absurd (present.symm.trans gone) (Option.some_ne_none old)
        · exact absurd (Option.some.inj (present.symm.trans schedule)) other
      · exact absurd used (Nat.not_lt.mpr high)

/-- The tasks that run the schedule of the queue go on. -/
theorem schedule_kept (spares : ∀ change ∈ changes, change.SparesSchedule world name)
    (numbered : world.Numbered) {loop : TaskId}
    (own : world.tasks.get? loop = some (.schedule name)) :
    (world.after changes).tasks.get? loop = some (.schedule name) := by
  refine (task_kept (numbered.lt_nextTask own) fun change member about => ?_).trans own
  have spared := spares change member
  cases change with
  | setTask | finish | dismiss =>
      cases about
      exact spared own
  | _ => cases about

/-- Lines about a flush are lines about the queue that it flushes, and about no other. -/
theorem linesOf_about {account : Account} {target : QueueId}
    (about : ∀ mark ∈ account, mark.task? = some task)
    (owns : world.flushOf? task = some target) (name : QueueId) :
    world.linesOf name account = if target = name then account else [] := by
  unfold linesOf
  split
  · rename_i same
    refine List.filter_eq_self.mpr fun mark member => ?_
    rw [about mark member, Option.bind_some, owns, same]
    exact beq_self_eq_true _
  · rename_i different
    refine List.filter_eq_nil_iff.mpr fun mark member => ?_
    rw [about mark member, Option.bind_some, owns, beq_iff_eq]
    exact fun here => different (Option.some.inj here)

namespace Tidy

/-- A queue that is left alone is as it was, and its tasks are in order. -/
theorem left_alone (tidy : world.Tidy name) (numbered : world.Numbered)
    (alone : ∀ change ∈ changes, change.LeavesAlone world name) :
    (world.after changes).Tidy name := by
  have same : (world.after changes).queues.get? name = world.queues.get? name :=
    queue_kept fun change member => (alone change member).1
  have spares : ∀ change ∈ changes, change.SparesTasks world name :=
    fun change member => (alone change member).2.1
  refine ⟨?_, fun task => ?_, fun queue task there loops => ?_⟩
  · rw [same]
    exact tidy.sound
  · rw [same, flushOf?_after (fun change member _ => spares change member) numbered]
    exact tidy.flushes task
  · rw [same] at there
    obtain ⟨old, may⟩ := tidy.loop queue task there loops
    exact ⟨Nat.lt_of_lt_of_le old (names_after world changes).1,
      mayLoop_after (fun change member _ => spares change member) old may⟩

/-- A queue changes while its tasks are left alone, but for the start of its schedule. -/
theorem changed (tidy : world.Tidy name) (numbered : world.Numbered)
    (here : world.queues.get? name = some queue)
    (there : (world.after changes).queues.get? name = some next) (sound : next.Sound)
    (flushes : next.flushes = queue.flushes)
    (spares : ∀ change ∈ changes, change.SparesTasks world name)
    (loop : ∀ task, next.loop = some task → queue.loop = some task ∨
      task < (world.after changes).nextTask ∧ (world.after changes).MayLoop name task) :
    (world.after changes).Tidy name := by
  refine .of_get? there sound (fun task => ?_) fun task loops => ?_
  · rw [flushOf?_after (fun change member _ => spares change member) numbered, flushes]
    exact tidy.runs here task
  · rcases loop task loops with before | new
    · obtain ⟨old, may⟩ := tidy.loop queue task here before
      exact ⟨Nat.lt_of_lt_of_le old (names_after world changes).1,
        mayLoop_after (fun change member _ => spares change member) old may⟩
    · exact new

/-- A flush of a queue goes on, begins or ends along with the task that runs it. -/
theorem flushed (tidy : world.Tidy name) (numbered : world.Numbered)
    (here : world.queues.get? name = some queue)
    (there : (world.after changes).queues.get? name = some next) (sound : next.Sound)
    {old : Task} (present : world.tasks.get? task = some old) (unscheduled : old ≠ .schedule name)
    (spares : ∀ change ∈ changes, change.task? ≠ some task → change.SparesTasks world name)
    (others : ∀ other, other ≠ task → ((next.flushes.get? other).isSome = true ↔
      (queue.flushes.get? other).isSome = true))
    (own : (world.after changes).flushOf? task = some name ↔
      (next.flushes.get? task).isSome = true)
    (loop : ∀ loop, next.loop = some loop → queue.loop = some loop) :
    (world.after changes).Tidy name := by
  refine .of_get? there sound (fun other => ?_) fun other loops => ?_
  · by_cases same : other = task
    · rw [same]
      exact own
    · rw [others other same, ← tidy.runs here other]
      refine flushOf?_after (fun change member about => spares change member ?_) numbered
      rcases about with about | about
      · rw [about]
        exact fun equal => same (Option.some.inj equal)
      · rw [about]
        exact (Option.some_ne_none task).symm
  · obtain ⟨used, may⟩ := tidy.loop queue other here (loop other loops)
    refine ⟨Nat.lt_of_lt_of_le used (names_after world changes).1,
      mayLoop_after (fun change member about => spares change member ?_) used may⟩
    rw [about]
    rintro ⟨⟩
    rcases may with gone | schedule
    · exact Option.some_ne_none old (present.symm.trans gone)
    · exact unscheduled (Option.some.inj (present.symm.trans schedule))

end Tidy

end World

end PullConsumer
