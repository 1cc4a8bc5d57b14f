import PullConsumer.Proofs.Client.Fairness
import PullConsumer.Proofs.Client.Reports

/-! # How hand-backs end

A hand-back that is asked for goes through its phases (`World.InPhase`), and on every fair course it
comes to its end. It ends as if nothing had gone wrong, but for one case: where the call that
releases the lock breaks down, so does the hand-back (`World.run_handedBack`).
-/

namespace PullConsumer

/-- How far a hand-back is from its end, and what it waits for. -/
inductive HandBackPhase
  | begun
  /-- Its flush is in progress, and has a deadline once it has begun. -/
  | flushing (drain : TaskId) (deadline : Option Nat)
  | flushed (drain : TaskId)
  | releasing

namespace HandBackPhase

/-- The number of phases up to the end. -/
def left : HandBackPhase → Nat
  | .begun => 5
  | .flushing _ none => 4
  | .flushing _ (some _) => 3
  | .flushed _ => 2
  | .releasing => 1

/-- A flush in progress is at least three phases from the end. -/
theorem lt_left_flushing (drain : TaskId) (deadline : Option Nat) :
    2 < (flushing drain deadline).left := by
  cases deadline with
  | none => exact Nat.lt_succ_of_lt (Nat.lt_succ_self 2)
  | some due => exact Nat.lt_succ_self 2

/-- The task that has to go on. -/
def mover (task : TaskId) : HandBackPhase → TaskId
  | .flushing drain _ => drain
  | _ => task

end HandBackPhase

/-- Only a hand-back has a hand-back that begins as its origin. -/
theorem Task.handBack_of_origin {own : Task} {name : EntryId} {kind : HandBack}
    (origin : own.origin = .handBack name kind .begun) :
    ∃ stage, own = .handBack name kind stage := by
  cases own with
  | schedule | scheduledFlush | drain | pull | refresh => cases origin
  | handBack target other stage =>
      cases origin
      exact ⟨stage, rfl⟩

namespace World

variable {world after : World} {task drain : TaskId} {name : EntryId} {kind : HandBack}
  {stage : HandBackStage} {phase : HandBackPhase} {event : Event} {entry : PullEntry}

/-! ### Phases -/

/-- A hand-back is in a phase. -/
inductive InPhase (world : World) (task : TaskId) (name : EntryId) (kind : HandBack) :
    HandBackPhase → Prop
  | begun (own : world.tasks.get? task = some (.handBack name kind .begun)) :
      InPhase world task name kind .begun
  | flushing {drain : TaskId} {queue : QueueId} {timeout : Nat} {final : Bool}
      {deadline : Option Nat} {held : AckQueue}
      (own : world.tasks.get? task = some (.handBack name kind (.draining drain)))
      (flush : world.tasks.get? drain = some (.drain queue timeout final deadline (some task)))
      (here : world.queues.get? queue = some held) :
      InPhase world task name kind (.flushing drain deadline)
  | flushed {drain : TaskId} {result : TaskResult}
      (own : world.tasks.get? task = some (.handBack name kind (.draining drain)))
      (found : world.results.get? drain = some result) :
      InPhase world task name kind (.flushed drain)
  | releasing (own : world.tasks.get? task = some (.handBack name kind .releasing)) :
      InPhase world task name kind .releasing

/-- An event takes a hand-back on from a phase. -/
def Continues (world : World) (task : TaskId) : HandBackPhase → Event → Prop
  | .begun, event | .flushed _, event => ∃ draw, event = .proceed task draw
  | .flushing drain none, event => ∃ draw, event = .proceed drain draw
  | .flushing drain (some due), event => due ≤ world.clock ∧ event = .expire drain
  | .releasing, event => ∃ answer, event = .answer task answer

/-- The mover of a phase takes it on. -/
theorem actor?_of_continues (continues : world.Continues task phase event) :
    event.actor? = some (phase.mover task) := by
  cases phase with
  | begun | flushed | releasing =>
      obtain ⟨_, rfl⟩ := continues
      rfl
  | flushing drain deadline =>
      cases deadline with
      | none =>
          obtain ⟨_, rfl⟩ := continues
          rfl
      | some due =>
          obtain ⟨_, rfl⟩ := continues
          rfl

/-- A hand-back stays in its phase, comes closer to its end, or ends. -/
def GoesOn (world : World) (task : TaskId) (name : EntryId) (kind : HandBack)
    (phase : HandBackPhase) (event : Event) (after : World) : Prop :=
  after.tasks.get? task = none ∨ ∃ next, after.InPhase task name kind next ∧
    (next.left < phase.left ∨ next = phase ∧ ¬ world.Continues task phase event)

/-- A hand-back goes on if it stays in its phase while others act. -/
theorem goesOn_of_beside (stays : (world.step event).1.InPhase task name kind phase)
    (beside : event.actor? ≠ some (phase.mover task)) :
    GoesOn world task name kind phase event (world.step event).1 :=
  .inr ⟨phase, stays, .inr ⟨rfl, fun continues => beside (actor?_of_continues continues)⟩⟩

section GoesOn

variable (regular : world.Regular)

include regular

/-- A hand-back that was asked for begins when its task proceeds. -/
theorem goesOn_of_begun (present : world.entries.get? name = some entry)
    (own : world.tasks.get? task = some (.handBack name kind .begun)) :
    GoesOn world task name kind .begun event (world.step event).1 := by
  by_cases acts : event.actor? = some task
  · have goes := step_of_handBack regular.proper.numbered own acts
    generalize reached : (world.step event).1 = after at goes ⊢
    cases goes with
    | waits unready =>
        refine .inr ⟨.begun, .begun own, .inr ⟨rfl, ?_⟩⟩
        rintro ⟨draw, rfl⟩
        refine (unready draw rfl ?_).1 rfl
        rw [present]
        exact Option.some_ne_none entry
    | drains draw timeout final there serves began flush =>
        obtain ⟨held, here⟩ := regular.served name _ _ there serves
        obtain ⟨next, kept⟩ := regular.proper.present [.proceed task draw] here
        rw [← reached] at began flush ⊢
        exact .inr ⟨_, .flushing began flush kept, .inl (Nat.lt_succ_self 4)⟩
    | ends gone => exact .inl gone
  · exact goesOn_of_beside (.begun (regular.proper.undisturbed own nofun acts)) acts

/-- A hand-back that flushes waits for its flush, which begins and ends by its deadline. -/
theorem goesOn_of_flushing {queue : QueueId} {timeout : Nat} {final : Bool}
    {deadline : Option Nat} {held : AckQueue}
    (own : world.tasks.get? task = some (.handBack name kind (.draining drain)))
    (flush : world.tasks.get? drain = some (.drain queue timeout final deadline (some task)))
    (here : world.queues.get? queue = some held) :
    GoesOn world task name kind (.flushing drain deadline) event (world.step event).1 := by
  have different : drain ≠ task := by
    rintro rfl
    cases own.symm.trans flush
  have listed : world.queues.get? queue ≠ none := by
    rw [here]
    exact Option.some_ne_none held
  obtain ⟨next, kept⟩ := regular.proper.present [event] here
  have there : (world.step event).1.queues.get? queue = some next := kept
  by_cases acts : event.actor? = some task
  · have beside : event.actor? ≠ some drain :=
      fun mine => different (Option.some.inj (mine.symm.trans acts))
    have flushes := regular.proper.undisturbed flush nofun beside
    have goes := step_of_handBack regular.proper.numbered own acts
    generalize reached : (world.step event).1 = after at goes flushes there ⊢
    cases goes with
    | waits =>
        refine .inr ⟨_, .flushing own flush here, .inr ⟨rfl, fun continues => different ?_⟩⟩
        exact Option.some.inj ((actor?_of_continues continues).symm.trans acts)
    | releases draw releasing =>
        refine .inr ⟨.releasing, .releasing releasing, .inl ?_⟩
        exact Nat.lt_of_succ_lt (HandBackPhase.lt_left_flushing drain deadline)
    | ends gone => exact .inl gone
  · have waits := regular.proper.undisturbed own nofun acts
    by_cases moves : event.actor? = some drain
    · have goes := step_of_drain flush moves
      generalize (world.step event).1 = after at goes waits there ⊢
      cases goes with
      | waits still begun undue =>
          refine .inr ⟨_, .flushing waits still there, .inr ⟨rfl, fun continues => ?_⟩⟩
          cases deadline with
          | none =>
              obtain ⟨draw, rfl⟩ := continues
              exact begun listed rfl draw rfl
          | some due =>
              obtain ⟨passed, rfl⟩ := continues
              exact undue listed due rfl passed rfl
      | begins draw due began =>
          exact .inr ⟨_, .flushing waits began there, .inl (Nat.lt_succ_self 3)⟩
      | ends result found =>
          refine .inr ⟨_, .flushed waits found, .inl ?_⟩
          exact HandBackPhase.lt_left_flushing drain deadline
    · have flushes := regular.proper.undisturbed flush nofun moves
      exact goesOn_of_beside (.flushing waits flushes there) moves

/-- A hand-back with a flush that has ended takes the result when its task proceeds. -/
theorem goesOn_of_flushed {result : TaskResult} (present : world.entries.get? name = some entry)
    (own : world.tasks.get? task = some (.handBack name kind (.draining drain)))
    (found : world.results.get? drain = some result) :
    GoesOn world task name kind (.flushed drain) event (world.step event).1 := by
  by_cases acts : event.actor? = some task
  · have goes := step_of_handBack regular.proper.numbered own acts
    generalize (world.step event).1 = after at goes ⊢
    cases goes with
    | waits unready =>
        refine .inr ⟨_, .flushed own found, .inr ⟨rfl, ?_⟩⟩
        rintro ⟨draw, rfl⟩
        have missing := (unready draw rfl (by rw [present]; exact Option.some_ne_none entry)).2
        exact Option.some_ne_none result (found.symm.trans (missing drain rfl))
    | releases draw releasing =>
        exact .inr ⟨.releasing, .releasing releasing, .inl (Nat.lt_succ_self 1)⟩
    | ends gone => exact .inl gone
  · obtain ⟨kept, still⟩ := regular.paired.keeps regular.proper own acts found
    have waits := regular.proper.undisturbed own nofun acts
    exact goesOn_of_beside (.flushed waits still) acts

/-- A hand-back that releases the lock ends with the answer. -/
theorem goesOn_of_releasing
    (own : world.tasks.get? task = some (.handBack name kind .releasing)) :
    GoesOn world task name kind .releasing event (world.step event).1 := by
  by_cases acts : event.actor? = some task
  · have goes := step_of_handBack regular.proper.numbered own acts
    generalize (world.step event).1 = after at goes ⊢
    cases goes with
    | waits _ unanswered =>
        refine .inr ⟨_, .releasing own, .inr ⟨rfl, ?_⟩⟩
        rintro ⟨answer, rfl⟩
        exact unanswered answer rfl rfl
    | ends gone => exact .inl gone
  · exact goesOn_of_beside (.releasing (regular.proper.undisturbed own nofun acts)) acts

/-- Every event leaves a hand-back in its phase or takes it towards its end. -/
theorem goesOn (present : world.entries.get? name = some entry)
    (phased : world.InPhase task name kind phase) :
    GoesOn world task name kind phase event (world.step event).1 := by
  cases phased with
  | begun own => exact goesOn_of_begun regular present own
  | flushing own flush here => exact goesOn_of_flushing regular own flush here
  | flushed own found => exact goesOn_of_flushed regular present own found
  | releasing own => exact goesOn_of_releasing regular own

end GoesOn

/-! ### The end -/

variable {course : Nat → Event}

/-- On a fair course, the event comes that takes a hand-back on. -/
theorem Fair.continued (fair : world.Fair course) {start : Nat}
    (stays : ∀ n, start ≤ n → (world.along course n).InPhase task name kind phase) :
    ∃ n, start ≤ n ∧ (world.along course n).Continues task phase (course n) := by
  cases phase with
  | begun =>
      obtain ⟨n, draw, later, next⟩ := fair.proceeds task start fun n later => by
        cases stays n later with
        | begun own => simp only [canProceed, own]
      exact ⟨n, later, draw, next⟩
  | flushing drain deadline =>
      cases deadline with
      | none =>
          obtain ⟨n, draw, later, next⟩ := fair.proceeds drain start fun n later => by
            cases stays n later with
            | flushing own flush here => simp only [canProceed, flush]
          exact ⟨n, later, draw, next⟩
      | some due =>
          obtain ⟨late, reached⟩ := fair.elapses due
          have passed : ∀ n, max start late ≤ n → due ≤ (world.along course n).clock :=
            fun n later => Nat.le_trans reached
              (world.along_clock course (Nat.le_trans (Nat.le_max_right ..) later))
          obtain ⟨n, later, next⟩ := fair.expires drain (max start late) fun n later => by
            cases stays n (Nat.le_trans (Nat.le_max_left ..) later) with
            | flushing own flush here =>
                refine ⟨due, ?_, passed n later⟩
                simp only [due?, flush]
          exact ⟨n, Nat.le_trans (Nat.le_max_left ..) later, passed n later, next⟩
  | flushed drain =>
      obtain ⟨n, draw, later, next⟩ := fair.proceeds task start fun n later => by
        cases stays n later with
        | flushed own found => simp only [canProceed, own, found, Option.isSome_some]
      exact ⟨n, later, draw, next⟩
  | releasing =>
      obtain ⟨n, answer, later, next⟩ := fair.answers task start fun n later => by
        cases stays n later with
        | releasing own => exact awaited?_of_releasing own
      exact ⟨n, later, answer, next⟩

/-- On a fair course, a hand-back comes to its end. -/
theorem Fair.gone (fair : world.Fair course) (regular : world.Regular)
    (present : world.entries.get? name = some entry) (start : Nat)
    (phased : (world.along course start).InPhase task name kind phase) :
    ∃ n, start ≤ n ∧ (world.along course n).tasks.get? task = none := by
  have goes : ∀ n {phase}, (world.along course n).InPhase task name kind phase →
      GoesOn (world.along course n) task name kind phase (course n)
        (world.along course (n + 1)) := by
    intro n phase phased
    obtain ⟨_, _, handover⟩ := regular.handed name
    obtain ⟨next, there, _⟩ :=
      handover.endures_run regular.proper ((List.range n).map course) present
    rw [along_succ]
    exact goesOn (regular.run _) there phased
  -- By induction on the number of phases that are left.
  induction left : phase.left using Nat.strongRecOn generalizing start phase with
  | ind count ih =>
      subst left
      have leads : ∃ n, start ≤ n ∧ ((world.along course n).tasks.get? task = none ∨
          ∃ next, (world.along course n).InPhase task name kind next ∧
            next.left < phase.left) := by
        refine exists_reached_of_served
          (fun n => (world.along course n).InPhase task name kind phase) _ phased
          (fun n _ lasts => ?_) (fun lasts => ?_)
        · rcases goes n lasts with gone | ⟨next, there, less | ⟨rfl, _⟩⟩
          · exact .inr (.inl gone)
          · exact .inr (.inr ⟨next, there, less⟩)
          · exact .inl there
        · obtain ⟨n, later, continues⟩ := fair.continued lasts
          refine ⟨n + 1, Nat.le_succ_of_le later, ?_⟩
          rcases goes n (lasts n later) with gone | ⟨next, there, less | ⟨_, unprompted⟩⟩
          · exact .inl gone
          · exact .inr ⟨next, there, less⟩
          · exact absurd continues unprompted
      obtain ⟨n, later, gone | ⟨next, there, less⟩⟩ := leads
      · exact ⟨n, later, gone⟩
      · obtain ⟨last, after, gone⟩ := ih _ less n there rfl
        exact ⟨last, Nat.le_trans later after, gone⟩

/-! ### Results -/

/-- An event ends a task with a result. -/
structure EndsAt (world : World) (task : TaskId) (event : Event) (result : TaskResult) : Prop where
  lives : world.tasks.get? task ≠ none
  gone : (world.step event).1.tasks.get? task = none
  found : (world.step event).1.results.get? task = some result

/-- A hand-back is ended by an event of its own, and that settles its result. -/
theorem Regular.ending (regular : world.Regular)
    (own : world.tasks.get? task = some (.handBack name kind stage))
    (gone : (world.step event).1.tasks.get? task = none) :
    event.actor? = some task ∧
      (world.step event).1.results.get? task = some event.ending ∧
      ∀ answer, event = .answer task answer → stage = .releasing := by
  by_cases acts : event.actor? = some task
  · have goes := step_of_handBack regular.proper.numbered own acts
    generalize (world.step event).1 = after at goes gone ⊢
    cases goes with
    | waits => exact absurd (own.symm.trans gone) (Option.some_ne_none _)
    | drains draw timeout final present serves began =>
        exact absurd (began.symm.trans gone) (Option.some_ne_none _)
    | releases draw releasing => exact absurd (releasing.symm.trans gone) (Option.some_ne_none _)
    | ends _ result _ answered => exact ⟨acts, result, answered⟩
  · have waits := regular.proper.undisturbed own nofun acts
    exact absurd (waits.symm.trans gone) (Option.some_ne_none _)

/-- A task stays in its procedure until it ends. -/
theorem Proper.origin_run (proper : world.Proper) {own next : Task}
    (here : world.tasks.get? task = some own) (events : List Event)
    (there : (world.run events).tasks.get? task = some next) : next.origin = own.origin := by
  induction events generalizing world own with
  | nil =>
      cases here.symm.trans there
      rfl
  | cons event rest ih =>
      have used := proper.numbered.lt_nextTask here
      have done := proper.doneBy event
      cases goes : (world.step event).1.tasks.get? task with
      | none =>
          have gone := ((proper.step event).ended_run
            (Nat.lt_of_lt_of_le used done.nextTask) goes rest).2
          exact absurd (there.symm.trans gone) (Option.some_ne_none next)
      | some middle =>
          refine (ih (proper.step event) goes there).trans ?_
          rcases (proper.doneBy event).arrived _ _ goes with
            same | ⟨high, _⟩ | ⟨_, old, before, origin⟩
          · cases here.symm.trans same
            rfl
          · exact absurd used (Nat.not_lt.mpr high)
          · cases here.symm.trans before
            exact origin.symm

/-- What ends along a course is ended by one of its events. -/
theorem exists_ending (lives : world.tasks.get? task ≠ none) {count : Nat}
    (gone : (world.along course count).tasks.get? task = none) :
    ∃ n, (world.along course n).tasks.get? task ≠ none ∧
      ((world.along course n).step (course n)).1.tasks.get? task = none := by
  induction count with
  | zero => exact absurd gone lives
  | succ count ih =>
      by_cases before : (world.along course count).tasks.get? task = none
      · exact ih before
      · rw [along_succ] at gone
        exact ⟨count, before, gone⟩

/-- How a hand-back comes out, whatever happens from its start on. -/
structure ComesOut (start : World) (task : TaskId) : Prop where
  /-- It ends as if nothing had gone wrong, unless the call that releases the lock breaks down or it
  is cancelled. -/
  result : ∀ later event result, (start.run later).EndsAt task event result →
    result = .done ∨
      (∃ text, result = .panicked text ∧ event = .answer task (.panicked text) ∧
        (start.run later).awaited? task = some .release) ∨
      result = .cancelled ∧ event = .abort task
  /-- When that call breaks down, so does the hand-back. -/
  breaks : ∀ later text, (start.run later).awaited? task = some .release →
    (start.run later).EndsAt task (.answer task (.panicked text)) (.panicked text)
  /-- It does end, even if calls of its flush are never answered. -/
  ends : ∀ course, start.Fair course → ∃ count result,
    (start.along course count).EndsAt task (course count) result
  reports : ∀ later, (start.run later).Reports task

/-- A hand-back comes out well but for the call that releases the lock. -/
theorem Regular.comesOut (regular : world.Regular) (present : world.entries.get? name = some entry)
    (own : world.tasks.get? task = some (.handBack name kind .begun)) : world.ComesOut task := by
  have stays : ∀ later next, (world.run later).tasks.get? task = some next →
      ∃ stage, next = .handBack name kind stage := by
    intro later next there
    exact Task.handBack_of_origin (regular.proper.origin_run own later there)
  have lives : world.tasks.get? task ≠ none := by
    rw [own]
    exact Option.some_ne_none _
  refine ⟨fun later event result ends => ?_, fun later text awaits => ?_,
    fun course fair => ?_, fun later => (regular.run later).reports task⟩
  · obtain ⟨next, there⟩ := Option.ne_none_iff_exists'.mp ends.lives
    obtain ⟨stage, rfl⟩ := stays later next there
    obtain ⟨acts, found, answered⟩ := (regular.run later).ending there ends.gone
    cases ends.found.symm.trans found
    cases event with
    | proceed | respond | expire => exact .inl rfl
    | answer actor answer =>
        cases acts
        cases answered answer rfl
        cases answer with
        | value | failed => exact .inl rfl
        | panicked text => exact .inr (.inl ⟨text, rfl, rfl, awaited?_of_releasing there⟩)
    | abort actor =>
        cases acts
        exact .inr (.inr ⟨rfl, rfl⟩)
    | _ => cases acts
  · obtain ⟨target, other, there⟩ := handBack_of_awaited awaits
    have ended := get?_finish ((world.run later).record (.answered task (.panicked text))) task
      (.panicked text)
    refine ⟨by rw [there]; exact Option.some_ne_none _, ?_, ?_⟩
    · simp only [World.step, World.answer, there]
      exact ended.1
    · simp only [World.step, World.answer, there]
      exact ended.2
  · obtain ⟨last, _, gone⟩ := fair.gone regular present 0 (.begun own)
    obtain ⟨count, alive, ended⟩ := exists_ending lives gone
    obtain ⟨next, there⟩ := Option.ne_none_iff_exists'.mp alive
    obtain ⟨stage, rfl⟩ := stays _ next there
    exact ⟨count, _, alive, ended, ((regular.run _).ending there ended).2.1⟩

/-- **How hand-backs end.** A teardown or an offline hand-back of an entry ends, whatever its calls
come to, and all that goes wrong is logged. It ends as if nothing had gone wrong, but where the call
that releases the lock breaks down: there, and only there, the hand-back breaks down too. -/
theorem run_handedBack {epoch : Nat} {settings : Settings} {events : List Event}
    (present : ((initial epoch settings).run events).entries.get? name = some entry)
    (kind : HandBack) :
    ((initial epoch settings).run (events ++ [.begin (.handBack name kind)])).ComesOut
      ((initial epoch settings).run events).nextTask := by
  obtain ⟨next, there, _⟩ := run_endures present [.begin (.handBack name kind)]
  have own : ((initial epoch settings).run (events ++ [.begin (.handBack name kind)])).tasks.get?
      ((initial epoch settings).run events).nextTask = some (.handBack name kind .begun) := by
    rw [run_append]
    refine (congrArg _ (frame_spawn _ _).2.1).trans ?_
    exact (Table.get?_set ..).trans (if_pos rfl)
  exact (run_regular epoch settings _).comesOut there own

/-- An entry is opened, and its teardown is asked for. -/
def tearingDown : List Event :=
  [.openEntry (.ofNames "s" "g" "p" "b" "c" .shared) (.ofNames "s" "g" "c"),
    .begin (.handBack 0 .destroy)]

/-- The call that releases its lock breaks down. After that, time goes by. -/
def brokenDown (count : Nat) : Event :=
  ([.proceed 1 0, .proceed 2 0, .proceed 2 0, .proceed 2 0, .proceed 1 0,
    .answer 1 (.panicked "lost")] : List Event).getD count (.tick 1)

/-- On that fair course, the teardown breaks down. -/
theorem run_handedBack_brokenDown :
    ((initial 0 .standard).run tearingDown).Fair brokenDown ∧
      (((initial 0 .standard).run tearingDown).along brokenDown 5).EndsAt 1 (brokenDown 5)
        (.panicked "lost") := by
  obtain ⟨entry, present⟩ : ∃ entry,
      ((initial 0 .standard).run (tearingDown.take 1)).entries.get? 0 = some entry := ⟨_, rfl⟩
  have comesOut := run_handedBack present .destroy
  have idle : (((initial 0 .standard).run tearingDown).along brokenDown 6).tasks = [] := rfl
  have ticks : ∀ n, 6 ≤ n → brokenDown n = .tick 1 := by
    intro n later
    rw [brokenDown, List.getD_eq_getElem?_getD, List.getElem?_eq_none later]
    rfl
  refine ⟨fair_of_idle idle ticks, ?_⟩
  have awaits : (((initial 0 .standard).run tearingDown).along brokenDown 5).awaited? 1 =
      some .release := rfl
  exact comesOut.breaks ((List.range 5).map brokenDown) "lost" awaits

end World

end PullConsumer
