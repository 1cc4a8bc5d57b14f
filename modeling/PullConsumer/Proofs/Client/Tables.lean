import PullConsumer.Proofs.Client.Changes

/-! # What changes leave in the tables

A client keeps its queues, pull entries, tasks and results in tables. After a list of changes each
row is as it was before, unless a change of the list is about it (`World.queue_kept` and its like),
and what is found in a table was there before or has been put there by a change
(`World.task_found` and its like).
-/

namespace PullConsumer

/-- The queue that a change puts another one in place of. -/
@[simp] def Change.queue? : Change → Option QueueId
  | .setQueue name _ | .makeQueue name _ => some name
  | _ => none

/-- The task that a change moves on or ends. -/
@[simp] def Change.task? : Change → Option TaskId
  | .setTask task _ | .finish task _ | .dismiss task => some task
  | _ => none

/-- The result that a change writes or takes. -/
@[simp] def Change.resultOf? : Change → Option TaskId
  | .finish task _ | .collect task => some task
  | _ => none

/-- Whether a change concerns pull entries. -/
@[simp] def Change.isOfEntry : Change → Bool
  | .setEntry .. | .makeEntry _ => true
  | _ => false

namespace World

variable {world : World} {changes : List Change} {name : QueueId} {task : TaskId}

/-- Names are only used up. -/
theorem names_after (world : World) (changes : List Change) :
    world.nextTask ≤ (world.after changes).nextTask ∧
      world.nextQueue ≤ (world.after changes).nextQueue ∧
      world.nextEntry ≤ (world.after changes).nextEntry := by
  refine after_rel world (fun before after => before.nextTask ≤ after.nextTask ∧
    before.nextQueue ≤ after.nextQueue ∧ before.nextEntry ≤ after.nextEntry)
    (fun _ => ⟨Nat.le_refl _, Nat.le_refl _, Nat.le_refl _⟩)
    (fun first second => ⟨Nat.le_trans first.1 second.1, Nat.le_trans first.2.1 second.2.1,
      Nat.le_trans first.2.2 second.2.2⟩) changes fun change _ world => ?_
  cases change <;> simp [apply, setQueue, setEntry, setTask]

/-! ### Rows that are kept -/

/-- A queue that no change is about is as before. -/
theorem queue_kept (others : ∀ change ∈ changes, change.queue? ≠ some name) :
    (world.after changes).queues.get? name = world.queues.get? name := by
  refine after_keeps world (fun world => world.queues.get? name)
    fun change member world => ?_
  have other := others change member
  cases change with
  | setQueue target queue | makeQueue target queue =>
      exact (Table.get?_set ..).trans (if_neg fun same => other (congrArg some same))
  | _ => simp [apply, setEntry, setTask]

/-- A queue that is put in place once is there. -/
theorem queue_set {queue : AckQueue} (member : .setQueue name queue ∈ changes)
    (only : ∀ change ∈ changes, change.queue? = some name → change = .setQueue name queue) :
    (world.after changes).queues.get? name = some queue := by
  induction changes generalizing world with
  | nil => cases member
  | cons change rest ih =>
      have later : ∀ other ∈ rest, other.queue? = some name → other = .setQueue name queue :=
        fun other among => only other (List.mem_cons_of_mem change among)
      rw [after_cons]
      by_cases again : .setQueue name queue ∈ rest
      · exact ih again later
      · have first := (List.mem_cons.mp member).resolve_right again
        have others : ∀ other ∈ rest, other.queue? ≠ some name :=
          fun other among about => again (later other among about ▸ among)
        rw [queue_kept others, ← first]
        exact (Table.get?_set ..).trans (if_pos rfl)

/-- Where no change concerns pull entries, all of them are as they were. -/
theorem entries_kept (others : ∀ change ∈ changes, change.isOfEntry = false) :
    (world.after changes).entries = world.entries ∧
      (world.after changes).nextEntry = world.nextEntry := by
  refine Prod.mk.injEq .. ▸ after_keeps world (fun world => (world.entries, world.nextEntry))
    fun change member world => ?_
  have other := others change member
  cases change with
  | setEntry | makeEntry => cases other
  | _ => simp [apply, setQueue, setTask]

/-- A task that no change is about is as before. -/
theorem task_kept (used : task < world.nextTask)
    (others : ∀ change ∈ changes, change.task? ≠ some task) :
    (world.after changes).tasks.get? task = world.tasks.get? task := by
  induction changes generalizing world with
  | nil => rfl
  | cons change rest ih =>
      have later : world.nextTask ≤ (world.apply change).nextTask := (names_after world [change]).1
      rw [after_cons, ih (Nat.lt_of_lt_of_le used later)
        fun other member => others other (List.mem_cons_of_mem change member)]
      have other := others change List.mem_cons_self
      cases change with
      | setTask moved own | finish moved result | dismiss moved =>
          have different : moved ≠ task := fun same => other (congrArg some same)
          simp [apply, setTask, different]
      | spawn own => simp [apply, Nat.ne_of_gt used]
      | _ => simp [apply, setQueue, setEntry]

/-- A result that no change is about is as before. -/
theorem result_kept (others : ∀ change ∈ changes, change.resultOf? ≠ some task) :
    (world.after changes).results.get? task = world.results.get? task := by
  refine after_keeps world (fun world => world.results.get? task)
    fun change member world => ?_
  have other := others change member
  cases change with
  | finish ended result | collect ended =>
      have different : ended ≠ task := fun same => other (congrArg some same)
      simp [apply, different]
  | _ => simp [apply, setQueue, setEntry, setTask]

/-! ### Rows that are found -/

/-- What holds after a list of changes held before, or came with one of the changes. -/
theorem after_found (holds : World → Prop) (there : holds (world.after changes)) :
    holds world ∨ ∃ earlier, ∃ change ∈ changes, ¬ holds (world.after earlier) ∧
      holds ((world.after earlier).apply change) := by
  induction changes generalizing world with
  | nil => exact .inl there
  | cons change rest ih =>
      rcases ih there with now | ⟨earlier, other, member, unlike, comes⟩
      · by_cases before : holds world
        · exact .inl before
        · exact .inr ⟨[], change, List.mem_cons_self, before, now⟩
      · exact .inr ⟨change :: earlier, other, List.mem_cons_of_mem change member, unlike, comes⟩

/-- An entry after changes was there before, was set, or was made under an unused name. -/
theorem entry_found {name : EntryId} {entry : PullEntry}
    (there : (world.after changes).entries.get? name = some entry) :
    world.entries.get? name = some entry ∨ .setEntry name entry ∈ changes ∨
      world.nextEntry ≤ name ∧ .makeEntry entry ∈ changes := by
  rcases after_found (fun world => world.entries.get? name = some entry) there with
    before | ⟨earlier, change, member, unlike, comes⟩
  · exact .inl before
  · cases change with
    | setEntry target other =>
        simp only [apply, setEntry, Table.get?_set] at comes
        split at comes
        · rename_i same
          cases same
          cases comes
          exact .inr (.inl member)
        · exact absurd comes unlike
    | makeEntry other =>
        simp only [apply, Table.get?_set] at comes
        split at comes
        · rename_i same
          cases comes
          exact .inr (.inr ⟨same ▸ (names_after world earlier).2.2, member⟩)
        · exact absurd comes unlike
    | _ => exact absurd (by simpa [apply, setQueue, setTask] using comes) unlike

/-- A task that is there was there before, or has gone on, or is new. -/
theorem task_found {own : Task} (there : (world.after changes).tasks.get? task = some own) :
    world.tasks.get? task = some own ∨ .setTask task own ∈ changes ∨
      world.nextTask ≤ task ∧ .spawn own ∈ changes := by
  rcases after_found (fun world => world.tasks.get? task = some own) there with
    before | ⟨earlier, change, member, unlike, comes⟩
  · exact .inl before
  · cases change with
    | setTask target other =>
        simp only [apply, setTask, Table.get?_set] at comes
        split at comes
        · rename_i same
          cases same
          cases comes
          exact .inr (.inl member)
        · exact absurd comes unlike
    | spawn other =>
        simp only [apply, frame_spawn, Table.get?_set] at comes
        split at comes
        · rename_i same
          cases comes
          exact .inr (.inr ⟨same ▸ (names_after world earlier).1, member⟩)
        · exact absurd comes unlike
    | finish target result | dismiss target =>
        simp only [apply, frame_finish, Table.get?_erase] at comes
        split at comes
        · cases comes
        · exact absurd comes unlike
    | _ => exact absurd (by simpa [apply, setQueue, setEntry] using comes) unlike

/-- A result after changes was there before, or its task finished with it. -/
theorem result_found {result : TaskResult}
    (there : (world.after changes).results.get? task = some result) :
    world.results.get? task = some result ∨ .finish task result ∈ changes := by
  rcases after_found (fun world => world.results.get? task = some result) there with
    before | ⟨earlier, change, member, unlike, comes⟩
  · exact .inl before
  · cases change with
    | finish target other =>
        simp only [apply, finish_rest, Table.get?_set] at comes
        split at comes
        · rename_i same
          cases same
          cases comes
          exact .inr member
        · exact absurd comes unlike
    | collect target =>
        simp only [apply, Table.get?_erase] at comes
        split at comes
        · cases comes
        · exact absurd comes unlike
    | _ => exact absurd (by simpa [apply, setQueue, setEntry, setTask] using comes) unlike

/-! ### Rows that are gone -/

/-- A result that is gone has been taken. -/
theorem result_taken (gone : (world.after changes).results.get? task = none) :
    world.results.get? task = none ∨ .collect task ∈ changes := by
  rcases after_found (fun world => world.results.get? task = none) gone with
    before | ⟨earlier, change, member, unlike, goes⟩
  · exact .inl before
  · cases change with
    | finish target other =>
        simp only [apply, finish_rest, Table.get?_set] at goes
        split at goes
        · cases goes
        · exact absurd goes unlike
    | collect target =>
        simp only [apply, Table.get?_erase] at goes
        split at goes
        · rename_i same
          cases same
          exact .inr member
        · exact absurd goes unlike
    | _ => exact absurd (by simpa [apply, setQueue, setEntry, setTask] using goes) unlike

/-- A task that has ended before does not come back unless it is set. -/
theorem task_gone (used : task < world.nextTask) (gone : world.tasks.get? task = none)
    (unset : ∀ own, .setTask task own ∉ changes) :
    (world.after changes).tasks.get? task = none := by
  cases there : (world.after changes).tasks.get? task with
  | none => rfl
  | some own =>
      rcases task_found there with before | set | ⟨high, _⟩
      · exact absurd (before.symm.trans gone) (Option.some_ne_none own)
      · exact absurd set (unset own)
      · exact absurd used (Nat.not_lt.mpr high)

/-- A task that ends is gone. -/
theorem task_ended {result : TaskResult} (used : task < world.nextTask)
    (ends : .finish task result ∈ changes) (unset : ∀ own, .setTask task own ∉ changes) :
    (world.after changes).tasks.get? task = none := by
  induction changes generalizing world with
  | nil => cases ends
  | cons change rest ih =>
      have used' : task < (world.apply change).nextTask :=
        Nat.lt_of_lt_of_le used (names_after world [change]).1
      have unset' : ∀ own, .setTask task own ∉ rest :=
        fun own member => unset own (List.mem_cons_of_mem change member)
      rw [after_cons]
      rcases List.mem_cons.mp ends with rfl | later
      · have gone : (world.apply (.finish task result)).tasks.get? task = none := by
          simp only [apply, frame_finish, Table.get?_erase, if_true]
        exact task_gone used' gone unset'
      · exact ih used' later unset'

end World

end PullConsumer
