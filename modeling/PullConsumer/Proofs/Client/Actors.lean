import PullConsumer.Proofs.Client.Runs

/-! # The actor of a step

One task at most takes a step of a client. Every other task stays as it is, unless it runs a
schedule that is stopped, and what has ended stays ended (`World.DoneBy`). All events but the making
of pull entries and the steps of hand-backs leave the entries alone (`World.Proper.keepsEntries`).
-/

namespace PullConsumer

/-- Whether a call releases a consumption lock. -/
def Call.isRelease : Call → Bool
  | .release .. => true
  | _ => false

/-- Whether a task is a hand-back that has begun. -/
def Task.handsBack : Task → Bool
  | .handBack _ _ (.draining _) | .handBack _ _ .releasing => true
  | _ => false

/-- A task at the start of its procedure. -/
def Task.origin : Task → Task
  | .drain queue timeout final _ parent => .drain queue timeout final none parent
  | .pull entry size timeout hook _ => .pull entry size timeout hook none
  | .handBack entry kind _ => .handBack entry kind .begun
  | .refresh subject group _ => .refresh subject group false
  | own => own

@[simp] theorem Task.origin_eq :
    (∀ queue, (Task.schedule queue).origin = .schedule queue) ∧
    (∀ queue parent, (Task.scheduledFlush queue parent).origin = .scheduledFlush queue parent) ∧
    (∀ queue timeout final deadline parent,
      (Task.drain queue timeout final deadline parent).origin =
      .drain queue timeout final none parent) ∧
    (∀ entry size timeout hook asked, (Task.pull entry size timeout hook asked).origin =
      .pull entry size timeout hook none) ∧
    (∀ entry kind stage, (Task.handBack entry kind stage).origin = .handBack entry kind .begun) ∧
    ∀ subject group asked, (Task.refresh subject group asked).origin =
      .refresh subject group false :=
  ⟨fun _ => rfl, fun _ _ => rfl, fun _ _ _ _ _ => rfl, fun _ _ _ _ _ => rfl, fun _ _ _ => rfl,
    fun _ _ _ => rfl⟩

/-- Whether a task takes the results of tasks that it waits for. -/
def Task.collects : Task → Bool
  | .schedule _ | .handBack .. => true
  | _ => false

/-- A task at the start of its procedure is no hand-back that has begun. -/
theorem Task.handsBack_of_origin {own : Task} (start : own.origin = own) :
    own.handsBack = false := by
  rw [← start]
  cases own <;> rfl

/-- Whether a change, made by a client that was in some state, is the doing of the actor of a step:
no other task goes on, ends with a result or takes one. -/
@[simp] def Change.DoneBy (world : World) (actor : Option TaskId) : Change → Prop
  | .setTask task own =>
    actor = some task ∧ ∃ old, world.tasks.get? task = some old ∧ old.origin = own.origin
  | .spawn own => own.origin = own
  | .finish task _ => actor = some task ∧ world.tasks.get? task ≠ none
  | .dismiss task => ∃ name, world.MayLoop name task
  | .collect _ => ∃ taker own, actor = some taker ∧ world.tasks.get? taker = some own ∧
    own.collects = true
  | _ => True

/-- Whether a change moves a task on. -/
@[simp] def Change.movesOn : Change → Bool
  | .setTask .. => true
  | _ => false

/-- Whether a change ends a task with a result. -/
@[simp] def Change.ends : Change → Bool
  | .finish .. => true
  | _ => false

/-- Whether a change leaves the pull entries alone and lets no hand-back go on. -/
@[simp] def Change.SparesHandBacks : Change → Prop
  | .setEntry .. | .makeEntry _ => False
  | .setTask _ own => own.handsBack = false
  | _ => True

namespace World

variable {actor : Option TaskId} {world before after : World} {changes : List Change}
  {task : TaskId} {event : Event}

/-! ### Results -/

theorem get?_setTask (world : World) (task : TaskId) (own : Task) :
    (world.setTask task own).tasks.get? task = some own :=
  (Table.get?_set ..).trans (if_pos rfl)

/-- A task that ends leaves its result. -/
theorem get?_finish (world : World) (task : TaskId) (result : TaskResult) :
    (world.finish task result).tasks.get? task = none ∧
      (world.finish task result).results.get? task = some result := by
  rw [(frame_finish world task result).2.1, (finish_rest world task result).1, Table.get?_erase,
    Table.get?_set, if_pos rfl, if_pos rfl]
  exact ⟨rfl, rfl⟩

/-- Every result is that of a task that has ended. -/
def Filed (world : World) : Prop :=
  ∀ task result, world.results.get? task = some result →
    task < world.nextTask ∧ world.tasks.get? task = none

/-! ### Steps -/

/-- What a step changes is the doing of one task at most. -/
structure DoneBy (actor : Option TaskId) (before after : World) : Prop where
  nextTask : before.nextTask ≤ after.nextTask
  others : ∀ task own, before.tasks.get? task = some own → actor ≠ some task →
    after.tasks.get? task = some own ∨ ∃ queue, own = .schedule queue
  ended : ∀ task, task < before.nextTask → before.tasks.get? task = none →
    after.tasks.get? task = none ∧
      (after.results.get? task = before.results.get? task ∨ after.results.get? task = none)
  filed : before.Filed → after.Filed
  /-- A new task is at the start of its procedure, and a task goes on in its own. -/
  arrived : ∀ task own, after.tasks.get? task = some own → before.tasks.get? task = some own ∨
    before.nextTask ≤ task ∧ own.origin = own ∨
    actor = some task ∧ ∃ old, before.tasks.get? task = some old ∧ old.origin = own.origin
  untaken : ∀ task result, before.results.get? task = some result →
    after.results.get? task = none → ∃ taker own, actor = some taker ∧
      before.tasks.get? taker = some own ∧ own.collects = true

theorem DoneBy.refl (actor : Option TaskId) (world : World) : DoneBy actor world world where
  nextTask := Nat.le_refl _
  others _ _ here _ := .inl here
  ended _ _ gone := ⟨gone, .inl rfl⟩
  filed := id
  arrived _ _ here := .inl here
  untaken _ result found gone := absurd (found.symm.trans gone) (Option.some_ne_none result)

/-- A hand-back that has begun was there before, unless it is the actor of the step. -/
theorem DoneBy.handBack (done : DoneBy actor before after) {own : Task}
    (beside : actor ≠ some task) (there : after.tasks.get? task = some own)
    (begun : own.handsBack = true) : before.tasks.get? task = some own := by
  rcases done.arrived task own there with same | ⟨_, start⟩ | ⟨acts, _⟩
  · exact same
  · exact absurd ((Task.handsBack_of_origin start).symm.trans begun) Bool.false_ne_true
  · exact absurd acts beside

/-- Changes that are the doing of an actor make up a step that is its doing, unless they both move a
task on and end one. -/
theorem DoneBy.of_changes (numbered : world.Numbered)
    (done : ∀ change ∈ changes, change.DoneBy world actor)
    (once : (∀ change ∈ changes, change.movesOn = false) ∨
      ∀ change ∈ changes, change.ends = false) :
    DoneBy actor world (world.after changes) := by
  -- A task that has ended, and one that ends, is not set any more.
  have gone : ∀ task, task < world.nextTask → world.tasks.get? task = none →
      (world.after changes).tasks.get? task = none := by
    intro task used none
    refine task_gone used none fun own sets => ?_
    obtain ⟨_, old, here, _⟩ := done _ sets
    exact Option.some_ne_none old (here.symm.trans none)
  have unset : ∀ {task result}, Change.finish task result ∈ changes →
      ∀ own, .setTask task own ∉ changes := by
    intro task result ends own sets
    rcases once with unmoved | endless
    · cases unmoved _ sets
    · cases endless _ ends
  have lives : ∀ {task result}, Change.finish task result ∈ changes → task < world.nextTask := by
    intro task result ends
    obtain ⟨own, here⟩ := Option.ne_none_iff_exists'.mp (done _ ends).2
    exact numbered.lt_nextTask here
  refine ⟨(names_after world changes).1, fun task own here beside => ?_,
    fun task used none => ⟨gone task used none, ?_⟩, fun filed task result found => ?_,
    fun task own there => ?_, fun task result found none => ?_⟩
  · cases own with
    | schedule queue => exact .inr ⟨queue, rfl⟩
    | scheduledFlush | drain | pull | handBack | refresh =>
        refine .inl ((task_kept (numbered.lt_nextTask here)
          fun change member about => ?_).trans here)
        have doing := done change member
        cases change with
        | setTask | finish =>
            cases about
            exact beside doing.1
        | dismiss =>
            cases about
            obtain ⟨name, none | schedule⟩ := doing
            · exact Option.some_ne_none _ (here.symm.trans none)
            · cases here.symm.trans schedule
        | _ => cases about
  · cases found : (world.after changes).results.get? task with
    | none => exact .inr rfl
    | some result =>
        rcases result_found found with same | ends
        · exact .inl same.symm
        · exact absurd none (done _ ends).2
  · rcases result_found found with same | ends
    · obtain ⟨used, none⟩ := filed task result same
      exact ⟨Nat.lt_of_lt_of_le used (names_after world changes).1, gone task used none⟩
    · exact ⟨Nat.lt_of_lt_of_le (lives ends) (names_after world changes).1,
        task_ended (lives ends) ends (unset ends)⟩
  · rcases task_found there with same | sets | ⟨high, new⟩
    · exact .inl same
    · exact .inr (.inr (done _ sets))
    · exact .inr (.inl ⟨high, done _ new⟩)
  · rcases result_taken none with absent | taken
    · exact absurd (found.symm.trans absent) (Option.some_ne_none result)
    · exact done _ taken

/-- Every change of a transition is the doing of the actor of the event. -/
theorem Transition.doneBy (transition : Transition world event changes)
    (tidy : ∀ name, world.Tidy name) : ∀ change ∈ changes, change.DoneBy world event.actor? := by
  cases transition with
  | discards here | abortsSchedule _ here =>
      simpa [MayLoop] using fun loop runs => ⟨_, ((tidy _).loop _ loop here runs).2⟩
  | closes draw own here alive marked =>
      simpa [own, Event.actor?, MayLoop] using
        fun loop runs => ⟨_, ((tidy _).loop _ loop here runs).2⟩
  | handles present handling => cases handling <;> simp
  | responds own present handling => cases handling <;> simp [own, Event.actor?]
  | relinquishes draw own present idle =>
      rcases idle with ⟨_, _, rfl⟩ | ⟨_, _, rfl⟩ <;> simp [own, Event.actor?]
  | begins procedure => cases procedure <;> simp [Procedure.task]
  | handsBack draw own present first serves => simp [own, Event.actor?]
  | concludes draw own filed present => simp [own, Event.actor?, Task.collects]
  | _ => simp_all [Event.actor?, Task.collects]

/-- No event both moves a task on and ends one with a result. -/
theorem Transition.once (transition : Transition world event changes) :
    (∀ change ∈ changes, change.movesOn = false) ∨ ∀ change ∈ changes, change.ends = false := by
  cases transition with
  | closes | drains | pulls | handsBack | refreshes => exact .inr (by simp)
  | handles present handling | responds own present handling =>
      exact .inl (by cases handling <;> simp)
  | relinquishes draw own present idle =>
      rcases idle with ⟨_, _, rfl⟩ | ⟨_, _, rfl⟩ <;> exact .inl (by simp)
  | @concludes task name entry kind drain result draw own filed present =>
      cases released : entry.lockReleased with
      | true => exact .inl (by simp [released])
      | false => exact .inr (by simp [released])
  | _ => exact .inl (by simp)

/-- **Steps.** Every step of a client is the doing of its actor. -/
theorem Proper.doneBy (proper : world.Proper) (event : Event) :
    DoneBy event.actor? world (world.step event).1 :=
  step_cases (DoneBy event.actor? world) (.refl _ world) fun _ transition =>
    .of_changes proper.numbered (transition.doneBy proper.tidy) transition.once

/-- A task goes on only when it takes the step, unless it runs a schedule. -/
theorem Proper.undisturbed (proper : world.Proper) {own : Task}
    (here : world.tasks.get? task = some own) (unscheduled : ∀ queue, own ≠ .schedule queue)
    (beside : event.actor? ≠ some task) : (world.step event).1.tasks.get? task = some own := by
  rcases (proper.doneBy event).others task own here beside with same | ⟨queue, schedule⟩
  · exact same
  · exact absurd schedule (unscheduled queue)

/-- A run files results only under tasks that have ended. -/
theorem Filed.run (filed : world.Filed) (proper : world.Proper) (events : List Event) :
    (world.run events).Filed := by
  induction events generalizing world with
  | nil => exact filed
  | cons event rest ih => exact ih ((proper.doneBy event).filed filed) (proper.step event)

/-- After every run, results are those of tasks that have ended. -/
theorem run_filed (epoch : Nat) (settings : Settings) (events : List Event) :
    ((initial epoch settings).run events).Filed := by
  have filed : (initial epoch settings).Filed :=
    fun _ result found => absurd found.symm (Option.some_ne_none result)
  exact filed.run (proper_initial epoch settings) events

/-! ### All but the making of entries and the steps of hand-backs -/

/-- Whether an event neither makes a pull entry nor lets a hand-back go on. -/
def LeavesEntries (world : World) : Event → Prop
  | .openEntry .. => False
  | .proceed task _ => ∀ name kind stage, world.tasks.get? task ≠ some (.handBack name kind stage)
  | _ => True

/-- A task whose proceeding does not leave the entries alone is a hand-back. -/
theorem not_leavesEntries_proceed {draw : Nat}
    (other : ¬ world.LeavesEntries (.proceed task draw)) :
    ∃ name kind stage, world.tasks.get? task = some (.handBack name kind stage) :=
  Classical.byContradiction fun none =>
    other fun name kind stage own => none ⟨name, kind, stage, own⟩

/-- A change that leaves the pull entries alone and lets no hand-back go on. -/
structure KeepsEntries (before after : World) : Prop where
  entries : after.entries = before.entries
  nextEntry : after.nextEntry = before.nextEntry
  handBacks : ∀ task own, after.tasks.get? task = some own → own.handsBack = true →
    before.tasks.get? task = some own

/-- A transition that leaves the entries alone makes no entry and lets no hand-back go on. -/
theorem Transition.sparesHandBacks (transition : Transition world event changes)
    (aside : world.LeavesEntries event) : ∀ change ∈ changes, change.SparesHandBacks := by
  cases transition with
  | opensPlaceholder | opensEntry => exact aside.elim
  | relinquishes draw own | handsBack draw own | concludes draw own =>
      exact absurd own (aside _ _ _)
  | handles present handling | responds own present handling =>
      cases handling <;> simp
  | _ => simp [Task.handsBack]

/-- All events but the making of a pull entry and the steps of a hand-back keep the entries as they
are. -/
theorem Proper.keepsEntries (proper : world.Proper) (aside : world.LeavesEntries event) :
    KeepsEntries world (world.step event).1 := by
  refine step_cases (KeepsEntries world) ⟨rfl, rfl, fun _ _ here _ => here⟩
    fun changes transition => ?_
  have spares := transition.sparesHandBacks aside
  have entries : ∀ change ∈ changes, change.isOfEntry = false := by
    intro change member
    have spared := spares change member
    cases change with
    | setEntry | makeEntry => exact spared.elim
    | _ => rfl
  obtain ⟨same, nextEntry⟩ := entries_kept entries
  refine ⟨same, nextEntry, fun task own there begun => ?_⟩
  rcases task_found there with before | sets | ⟨_, new⟩
  · exact before
  · exact absurd ((spares _ sets).symm.trans begun) Bool.false_ne_true
  · have start := transition.doneBy proper.tidy _ new
    exact absurd ((Task.handsBack_of_origin start).symm.trans begun) Bool.false_ne_true

end World

end PullConsumer
