import PullConsumer.Proofs.Client.Awaited
import PullConsumer.Proofs.Client.Recorder

/-! # Refreshes

A refresh of broker metadata makes one call (`World.Refreshes`). Whatever is answered to it, the
client goes on in the same way: two answers leave clients that differ in the result of the refresh
and in the lines about its end, and they differ in nothing else for the rest of the run
(`World.Ignores`).
-/

namespace PullConsumer

/-! ### Results that are not read -/

namespace Table

variable {α : Type} {name other : Nat}

/-- The table with another row for a name that has one. -/
def amend (name : Nat) (row : α) (table : Table α) : Table α :=
  table.map fun held => if held.1 = name then (held.1, row) else held

/-- An amended row leaves the others alone. -/
theorem get?_amend (row : α) (different : name ≠ other) (table : Table α) :
    (table.amend name row).get? other = table.get? other := by
  induction table with
  | nil => rfl
  | cons head rest ih =>
      obtain ⟨key, old⟩ := head
      by_cases same : key = name
      · subst same
        simpa only [amend, List.map_cons, if_true, get?, if_neg different] using ih
      · simp only [amend, List.map_cons, if_neg same, get?]
        split
        · rfl
        · exact ih

/-- Another row can be set before or after a row is amended. -/
theorem set_amend (row held : α) (different : name ≠ other) (table : Table α) :
    (table.amend name row).set other held = (table.set other held).amend name row := by
  induction table with
  | nil => simp only [amend, List.map_nil, set, List.map_cons, if_neg different.symm]
  | cons head rest ih =>
      obtain ⟨key, old⟩ := head
      by_cases same : key = name
      · subst same
        simpa only [amend, List.map_cons, if_true, set, if_neg different, List.cons.injEq,
          true_and] using ih
      · by_cases found : key = other
        · simp only [amend, List.map_cons, if_neg same, set, if_pos found]
        · simpa only [amend, List.map_cons, if_neg same, set, if_neg found, List.cons.injEq,
            true_and] using ih

/-- A row can be erased before or after one is amended. -/
theorem erase_amend (row : α) (table : Table α) :
    (table.amend name row).erase other = (table.erase other).amend name row := by
  induction table with
  | nil => rfl
  | cons head rest ih =>
      obtain ⟨key, old⟩ := head
      by_cases same : key = name <;> by_cases found : key = other <;>
        simp_all [amend, erase]

/-- A new row is amended by setting another one. -/
theorem amend_set (first second : α) {table : Table α} (absent : table.get? name = none) :
    (table.set name first).amend name second = table.set name second := by
  induction table with
  | nil => simp only [set, amend, List.map_cons, List.map_nil, if_true]
  | cons head rest ih =>
      obtain ⟨key, old⟩ := head
      by_cases same : key = name
      · rw [get?, if_pos same] at absent
        exact absurd absent (Option.some_ne_none old)
      · rw [get?, if_neg same] at absent
        simpa only [set, if_neg same, amend, List.map_cons, List.cons.injEq, true_and] using
          ih absent

end Table

/-- A variation in which one task ended in another way. -/
theorem Variation.preserves_amend {task other : TaskId} (works : Bool) (past : List Effect)
    (result : TaskResult) (different : task ≠ other) :
    (Variation.mk works past (Table.amend task result)).Preserves other where
  get? := Table.get?_amend result different
  set results held := Table.set_amend result held different results
  erase := Table.erase_amend result

namespace World

variable {world : World} {task : TaskId} {event : Event} {subject group : String}

/-- A task that has ended, and whose result nobody waits for. -/
structure Unread (task : TaskId) (world : World) : Prop where
  used : task < world.nextTask
  ended : world.tasks.get? task = none
  unawaited : ∀ name queue failures flush, world.queues.get? name = some queue →
    queue.schedule = .flushing failures flush → task ≠ flush
  undrained : ∀ other name kind drain,
    world.tasks.get? other = some (.handBack name kind (.draining drain)) → task ≠ drain

/-- A result that nobody waits for can be varied. -/
theorem Unread.admits (unread : Unread task world) (works : Bool) (past : List Effect)
    (result : TaskResult) : world.Admits ⟨works, past, Table.amend task result⟩ where
  tasks other own present := by
    refine Variation.preserves_amend works past result ?_
    rintro rfl
    exact Option.some_ne_none own (present.symm.trans unread.ended)
  flushes name queue failures flush here flushing :=
    Variation.preserves_amend works past result
      (unread.unawaited name queue failures flush here flushing)
  drains other name kind drain own :=
    Variation.preserves_amend works past result (unread.undrained other name kind drain own)

/-- Nobody begins to wait for a task that has ended. -/
theorem Unread.step (unread : Unread task world) (proper : world.Proper) (event : Event) :
    Unread task (world.step event).1 := by
  have done := proper.doneBy event
  have ended := (done.ended task unread.used unread.ended).1
  refine ⟨Nat.lt_of_lt_of_le unread.used done.nextTask, ended, ?_, ?_⟩
  · intro name next failures flush there flushing
    rcases proper.awaited_flush there flushing with ⟨queue, others, here, waits⟩ | ⟨loop, launched⟩
    · exact unread.unawaited name queue others flush here waits
    · rintro rfl
      exact Option.some_ne_none _ (launched.symm.trans ended)
  · intro other name kind drain own
    rcases proper.drained own with ⟨before, _⟩ | ⟨_, rfl, _⟩
    · exact unread.undrained other name kind drain before
    · exact Nat.ne_of_lt unread.used

/-! ### Two ends of one task -/

/-- Two clients that differ in the result of one task and in an early part of the account. -/
structure Differs (task : TaskId) (result : TaskResult) (mine yours : List Effect)
    (first second : World) : Prop where
  state : second = { first with
    results := first.results.amend task result
    history := second.history }
  history : ∃ told, first.history = told ++ mine ∧ second.history = told ++ yours

variable {first second : World} {result : TaskResult} {mine yours : List Effect}

/-- An event does the same to both clients and replies the same. -/
theorem Differs.step (differs : Differs task result mine yours first second)
    (unread : Unread task first) (event : Event) :
    (second.step event).2 = (first.step event).2 ∧
      Differs task result mine yours (first.step event).1 (second.step event).1 := by
  obtain ⟨told, early, late⟩ := differs.history
  by_cases sets : ∃ works, event = .setRecorder works
  · obtain ⟨works, rfl⟩ := sets
    refine ⟨rfl, ?_, told, early, late⟩
    change { second with recorderWorks := works } = _
    rw [differs.state]
    rfl
  · have keeps : ∀ works, event ≠ .setRecorder works := fun works same => sets ⟨works, same⟩
    -- Both clients are told from one without a past.
    let bare : World := { first with history := [] }
    have mine' : bare.rewritten true first.history = first := by
      simp only [bare, rewritten, Bool.and_true, List.flatMap_nil, List.nil_append]
    have yours' : bare.varied ⟨true, second.history, Table.amend task result⟩ = second := by
      rw [differs.state]
      simp only [bare, varied, Bool.and_true, List.flatMap_nil, List.nil_append]
    have unheard : Unread task bare :=
      ⟨unread.used, unread.ended, unread.unawaited, unread.undrained⟩
    have admits : bare.Admits ⟨true, second.history, Table.amend task result⟩ :=
      unheard.admits _ _ _
    have left : (bare.rewritten true first.history).step event = _ :=
      bare.rewritten_step event keeps
    have right : (bare.varied ⟨true, second.history, Table.amend task result⟩).step event = _ :=
      varied_step admits event keeps
    rw [mine'] at left
    rw [yours'] at right
    refine ⟨by rw [left, right], ?_, (bare.step event).1.history ++ told, ?_, ?_⟩
    · rw [left, right]
      rfl
    · rw [left]
      simp only [rewritten, Effect.flatMap_written_true, early, List.append_assoc]
    · rw [right]
      simp only [varied, Effect.flatMap_written_true, late, List.append_assoc]

/-- A run does the same to both clients and replies the same. -/
theorem Differs.run (differs : Differs task result mine yours first second)
    (unread : Unread task first) (proper : first.Proper) (events : List Event) :
    replies second events = replies first events ∧
      Differs task result mine yours (first.run events) (second.run events) := by
  induction events generalizing first second with
  | nil => exact ⟨rfl, differs⟩
  | cons event rest ih =>
      obtain ⟨same, later⟩ := differs.step unread event
      obtain ⟨replied, reached⟩ := ih later (unread.step proper event) (proper.step event)
      refine ⟨?_, reached⟩
      simp only [replies, same, replied]

/-! ### The end of a refresh -/

/-- The result of a refresh. -/
def refreshEnd : Answer Unit → TaskResult
  | .panicked text => .panicked text
  | _ => .done

/-- The lines about the end of a refresh, the latest first. -/
def refreshLines (task : TaskId) (answer : Answer Unit) : List Effect :=
  match answer with
  | .failed fault => [.notice (.bestEffortFailed "refresh broker metadata" fault),
      .answered task answer]
  | _ => [.answered task answer]

/-- A refresh that was answered has ended, and nothing else has changed. -/
theorem step_refresh (own : world.tasks.get? task = some (.refresh subject group true))
    (answer : Answer Unit) : world.step (.answer task answer) =
      ({ world with
          tasks := world.tasks.erase task
          results := world.results.set task (refreshEnd answer)
          history := refreshLines task answer ++ world.history }, .nothing) := by
  have orphan : ∀ after : World, after.tasks = world.tasks → after.parent? task = none := by
    intro after same
    rw [parent?, same, own]
  simp only [step, World.answer, own]
  cases answer with
  | value =>
      simp only [answerRefresh, finish, orphan (world.record _) rfl]
      rfl
  | failed fault =>
      simp only [answerRefresh, finish, orphan ((world.record _).bestEffort _ fault) rfl]
      rfl
  | panicked text =>
      simp only [answerRefresh, finish, orphan (world.record _) rfl]
      rfl

/-- Nobody waits for a refresh. -/
theorem unread_of_refresh (regular : world.Regular) (awaiting : world.Awaiting)
    (own : world.tasks.get? task = some (.refresh subject group true)) (answer : Answer Unit) :
    Unread task (world.step (.answer task answer)).1 := by
  have unfinished : ∀ {result}, world.results.get? task ≠ some result := fun found =>
    Option.some_ne_none _ (own.symm.trans (regular.filed task _ found).2)
  rw [step_refresh own answer]
  refine ⟨regular.proper.numbered.lt_nextTask own, ?_, ?_, ?_⟩
  · exact (Table.get?_erase ..).trans (if_pos rfl)
  · rintro name queue failures flush here flushing rfl
    rcases awaiting.awaited name queue failures task here flushing with
      ⟨_, runs⟩ | ⟨_, ends⟩ | cancelled
    · cases own.symm.trans runs
    · obtain ⟨_, found, _⟩ := Option.bind_eq_some_iff.mp ends
      exact unfinished found
    · exact unfinished cancelled
  · rintro other name kind drain there rfl
    have before : world.tasks.get? other = some (.handBack name kind (.draining task)) := by
      have kept : (world.tasks.erase task).get? other = _ := there
      rw [Table.get?_erase] at kept
      split at kept
      · cases kept
      · exact kept
    rcases (regular.paired.awaits other name kind task before).2 with
      ⟨_, _, _, _, runs⟩ | ⟨_, found⟩
    · cases own.symm.trans runs
    · exact unfinished found

/-- What is answered to a refresh ends it, and has no bearing on anything else: after any two
answers the same events reply the same, and they lead to clients that differ in the result of the
refresh and in the lines about its end. -/
structure Ignores (world : World) (task : TaskId) : Prop where
  ends : ∀ answer, world.step (.answer task answer) =
    ({ world with
        tasks := world.tasks.erase task
        results := world.results.set task (refreshEnd answer)
        history := refreshLines task answer ++ world.history }, .nothing)
  later : ∀ answer other events,
    replies (world.step (.answer task other)).1 events =
        replies (world.step (.answer task answer)).1 events ∧
      Differs task (refreshEnd other) (refreshLines task answer ++ world.history)
        (refreshLines task other ++ world.history)
        ((world.step (.answer task answer)).1.run events)
        ((world.step (.answer task other)).1.run events)

/-- What a refresh is answered has no consequence. -/
theorem Regular.ignores (regular : world.Regular) (awaiting : world.Awaiting)
    (own : world.tasks.get? task = some (.refresh subject group true)) : world.Ignores task where
  ends := step_refresh own
  later answer other events := by
    have unfinished : world.results.get? task = none := by
      cases found : world.results.get? task with
      | none => rfl
      | some result =>
          exact absurd (own.symm.trans (regular.filed task result found).2) (Option.some_ne_none _)
    have differs : Differs task (refreshEnd other) (refreshLines task answer ++ world.history)
        (refreshLines task other ++ world.history) (world.step (.answer task answer)).1
        (world.step (.answer task other)).1 := by
      rw [step_refresh own answer, step_refresh own other]
      refine ⟨?_, [], rfl, rfl⟩
      dsimp only
      rw [Table.amend_set _ _ unfinished]
    exact differs.run (unread_of_refresh regular awaiting own answer) (regular.proper.step _) events

/-! ### The call of a refresh -/

/-- The call of a task that a line tells of. -/
def callOf? (task : TaskId) : Mark → Option Call
  | .called other call => if other = task then some call else none
  | _ => none

/-- A task made these calls from one state to another. -/
def Makes (before : World) (task : TaskId) (calls : List Call) (after : World) : Prop :=
  ∃ told, before.Tells told after ∧ told.filterMap (callOf? task) = calls

variable {middle after : World} {earlier later : List Call}

theorem Makes.refl (world : World) (task : TaskId) : world.Makes task [] world :=
  ⟨[], .of_eq rfl, rfl⟩

theorem Makes.trans (start : world.Makes task earlier middle)
    (rest : middle.Makes task later after) : world.Makes task (earlier ++ later) after := by
  obtain ⟨first, tells, made⟩ := start
  obtain ⟨second, tellsLater, makes⟩ := rest
  exact ⟨first ++ second, tells.trans tellsLater, by rw [List.filterMap_append, made, makes]⟩

/-- A refresh makes its call when it goes on, and no other call after that. -/
structure Refreshes (world : World) (task : TaskId) (subject group : String) : Prop where
  calls : ∀ draw, world.step (.proceed task draw) =
    ({ world with
        tasks := world.tasks.set task (.refresh subject group true)
        history := .called task (@Call.refresh .consumer subject group) :: world.history },
      .nothing)
  once : ∀ events, ∃ calls, world.Makes task calls (world.run events) ∧
    calls <+: [@Call.refresh .consumer subject group]

/-- During an event a task makes no call that it may not make. -/
theorem Proper.makes_nothing (proper : world.Proper)
    (silent : ∀ call, ¬ world.MayCall event task call) :
    world.Makes task [] (world.step event).1 := by
  obtain ⟨told, tells, allowed⟩ := step_calls proper event
  refine ⟨told, tells, List.filterMap_eq_nil_iff.mpr fun mark member => ?_⟩
  cases mark with
  | called other call =>
      refine if_neg ?_
      rintro rfl
      exact silent call (allowed other call member)
  | offered | answered => rfl

/-- A refresh may only call when it goes on for the first time. -/
theorem not_mayCall {calling : Bool}
    (own : world.tasks.get? task = some (.refresh subject group calling))
    (late : calling = false → ∀ draw, event ≠ .proceed task draw) (call : Call) :
    ¬ world.MayCall event task call := by
  intro may
  cases event with
  | proceed actor draw =>
      obtain ⟨rfl, current, here, allowed⟩ := may
      cases own.symm.trans here
      cases calling with
      | false => exact late rfl draw rfl
      | true => cases allowed
  | answer actor answer =>
      obtain ⟨_, ⟨name, owns⟩, _⟩ := may
      rw [flushOf?_of_get? own] at owns
      cases owns
  | _ => exact may.elim

/-- A task that has ended may not call. -/
theorem not_mayCall_of_ended (ended : world.tasks.get? task = none) (call : Call) :
    ¬ world.MayCall event task call := by
  intro may
  cases event with
  | proceed actor draw =>
      obtain ⟨_, current, here, _⟩ := may
      exact Option.some_ne_none current (here.symm.trans ended)
  | answer actor answer =>
      obtain ⟨_, ⟨name, owns⟩, _⟩ := may
      rw [flushOf?, ended] at owns
      cases owns
  | _ => exact may.elim

/-- A refresh stays as it is or ends, unless it goes on for the first time. -/
theorem Proper.refresh_step (proper : world.Proper) {calling : Bool}
    (own : world.tasks.get? task = some (.refresh subject group calling))
    (late : calling = false → ∀ draw, event ≠ .proceed task draw) :
    (world.step event).1.tasks.get? task = some (.refresh subject group calling) ∨
      (world.step event).1.tasks.get? task = none := by
  have stays : ∀ {after : World}, after = world →
      after.tasks.get? task = some (.refresh subject group calling) ∨
        after.tasks.get? task = none := by
    rintro _ rfl
    exact .inl own
  by_cases acts : event.actor? = some task
  · cases event with
    | proceed actor draw =>
        cases acts
        cases calling with
        | false => exact absurd rfl (late rfl draw)
        | true => exact stays (by simp only [World.step, proceed, own])
    | answer actor answer =>
        cases acts
        cases calling with
        | false => exact stays (by simp only [World.step, World.answer, own])
        | true =>
            rw [step_refresh own answer]
            exact .inr ((Table.get?_erase ..).trans (if_pos rfl))
    | respond actor answer =>
        cases acts
        exact stays (by simp only [World.step, respond, own])
    | expire actor =>
        cases acts
        exact stays (by simp only [World.step, expire, own, ite_self])
    | abort actor =>
        cases acts
        simp only [World.step, abort, own]
        exact .inr (get?_finish world task _).1
    | _ => cases acts
  · exact .inl (proper.undisturbed own (by rintro _ ⟨⟩) acts)

/-- A task that has ended makes no call any more. -/
theorem Proper.quiet_of_ended (proper : world.Proper) (used : task < world.nextTask)
    (ended : world.tasks.get? task = none) (events : List Event) :
    world.Makes task [] (world.run events) := by
  induction events generalizing world with
  | nil => exact .refl world task
  | cons event rest ih =>
      have done := proper.doneBy event
      have now : world.Makes task [] (world.step event).1 :=
        proper.makes_nothing (not_mayCall_of_ended ended)
      exact now.trans (ih (proper.step event) (Nat.lt_of_lt_of_le used done.nextTask)
        (done.ended task used ended).1)

/-- A refresh that has ended makes no call any more. -/
theorem Proper.quiet_of_refreshed (proper : world.Proper) {calling : Bool}
    (own : world.tasks.get? task = some (.refresh subject group calling))
    (gone : (world.step event).1.tasks.get? task = none) (events : List Event) :
    (world.step event).1.Makes task [] ((world.step event).1.run events) := by
  have done := proper.doneBy event
  have used := Nat.lt_of_lt_of_le (proper.numbered.lt_nextTask own) done.nextTask
  exact (proper.step event).quiet_of_ended used gone events

/-- A refresh that waits for its answer makes no call any more. -/
theorem Proper.quiet_of_called (proper : world.Proper)
    (own : world.tasks.get? task = some (.refresh subject group true)) (events : List Event) :
    world.Makes task [] (world.run events) := by
  induction events generalizing world with
  | nil => exact .refl world task
  | cons event rest ih =>
      have now : world.Makes task [] (world.step event).1 :=
        proper.makes_nothing (not_mayCall own nofun)
      rcases proper.refresh_step own nofun with still | gone
      · exact now.trans (ih (proper.step event) still)
      · exact now.trans (proper.quiet_of_refreshed own gone rest)

/-- A refresh that begins makes its call and waits for the answer. -/
theorem step_beginRefresh (own : world.tasks.get? task = some (.refresh subject group false))
    (draw : Nat) : world.step (.proceed task draw) =
      ({ world with
          tasks := world.tasks.set task (.refresh subject group true)
          history := .called task (@Call.refresh .consumer subject group) :: world.history },
        .nothing) := by
  simp only [step, proceed, own]
  rfl

/-- A refresh makes one call and ends with the answer to it. -/
theorem Proper.refreshes (proper : world.Proper)
    (own : world.tasks.get? task = some (.refresh subject group false)) :
    world.Refreshes task subject group where
  calls := step_beginRefresh own
  once events := by
    induction events generalizing world with
    | nil => exact ⟨[], .refl world task, List.nil_prefix⟩
    | cons event rest ih =>
        by_cases starts : ∃ draw, event = .proceed task draw
        · obtain ⟨draw, rfl⟩ := starts
          have called := step_beginRefresh own draw
          have now : world.Makes task [@Call.refresh .consumer subject group]
              (world.step (.proceed task draw)).1 := by
            rw [called]
            refine ⟨[.called task (@Call.refresh .consumer subject group)],
              ⟨[.called task _], rfl, rfl⟩, ?_⟩
            simp only [List.filterMap_cons, callOf?, if_true, List.filterMap_nil]
          have waits : (world.step (.proceed task draw)).1.tasks.get? task =
              some (.refresh subject group true) := by
            rw [called]
            exact (Table.get?_set ..).trans (if_pos rfl)
          exact ⟨_, now.trans ((proper.step _).quiet_of_called waits rest), List.prefix_rfl⟩
        · have late : false = false → ∀ draw, event ≠ .proceed task draw :=
            fun _ draw same => starts ⟨draw, same⟩
          have now := proper.makes_nothing (not_mayCall own late)
          rcases proper.refresh_step own late with still | gone
          · obtain ⟨calls, makes, first⟩ := ih (proper.step event) still
            exact ⟨_, now.trans makes, first⟩
          · exact ⟨_, now.trans (proper.quiet_of_refreshed own gone rest), List.nil_prefix⟩

end World

end PullConsumer
