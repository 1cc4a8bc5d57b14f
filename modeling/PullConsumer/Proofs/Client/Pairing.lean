import PullConsumer.Proofs.Client.Actors
import PullConsumer.Proofs.Client.Pulls
import PullConsumer.Proofs.Queue.Pace

/-! # Hand-backs and their flushes

A hand-back waits for a flush of its own (`World.Paired`). The flush is in progress, or its result
is there until the hand-back takes it, whatever else happens (`World.run_regular`).
-/

namespace PullConsumer

/-- The result of a hand-back that an event ends. -/
def Event.ending : Event → TaskResult
  | .answer _ (.panicked text) => .panicked text
  | .abort _ => .cancelled
  | _ => .done

namespace World

variable {world : World} {task drain flush : TaskId} {name : EntryId} {kind : HandBack}
  {stage : HandBackStage} {event : Event} {changes : List Change}

/-! ### What a hand-back does -/

/-- All that an event of its own task does to a hand-back. -/
inductive HandBackStep (world : World) (task : TaskId) (name : EntryId) (kind : HandBack) :
    HandBackStage → Event → World → Prop
  | waits {stage : HandBackStage} {event : Event}
      (unready : ∀ draw, event = .proceed task draw → world.entries.get? name ≠ none →
        stage ≠ .begun ∧ ∀ drain, stage = .draining drain → world.results.get? drain = none)
      (unanswered : ∀ answer, event = .answer task answer → stage ≠ .releasing) :
      HandBackStep world task name kind stage event world
  /-- A flush is started. -/
  | drains (draw : Nat) {after : World} {entry : PullEntry} {queue : QueueId} (timeout : Nat)
      (final : Bool) (present : world.entries.get? name = some entry)
      (serves : entry.queue = some queue)
      (own : after.tasks.get? task = some (.handBack name kind (.draining world.nextTask)))
      (drain : after.tasks.get? world.nextTask =
        some (.drain queue timeout final none (some task)))
      (nextTask : after.nextTask = world.nextTask + 1) (results : after.results = world.results) :
      HandBackStep world task name kind .begun (.proceed task draw) after
  /-- The lock is released once the flush has ended. -/
  | releases (draw : Nat) {drain : TaskId} {after : World}
      (own : after.tasks.get? task = some (.handBack name kind .releasing))
      (results : ∀ other, drain ≠ other →
        after.results.get? other = world.results.get? other) :
      HandBackStep world task name kind (.draining drain) (.proceed task draw) after
  | ends {stage : HandBackStage} {event : Event} {after : World}
      (gone : after.tasks.get? task = none)
      (result : after.results.get? task = some event.ending)
      (results : ∀ other, task ≠ other → stage ≠ .draining other →
        after.results.get? other = world.results.get? other)
      (answered : ∀ answer, event = .answer task answer → stage = .releasing) :
      HandBackStep world task name kind stage event after

/-- Changes that end a hand-back at the last. -/
theorem HandBackStep.of_finish (first : List Change) {result : TaskResult}
    (same : result = event.ending)
    (results : ∀ other, stage ≠ .draining other → ∀ change ∈ first, change.resultOf? ≠ some other)
    (answered : ∀ answer, event = .answer task answer → stage = .releasing) :
    HandBackStep world task name kind stage event
      (world.after (first ++ [.finish task result])) := by
  rw [after_append]
  obtain ⟨gone, found⟩ := get?_finish (world.after first) task result
  refine .ends gone (same ▸ found) (fun other different apart => ?_) answered
  refine (congrArg (Table.get? other) (finish_rest _ task result).1).trans ?_
  rw [Table.get?_set, if_neg different]
  exact result_kept (results other apart)

/-- The transitions of the task of a hand-back. -/
theorem Transition.handBackStep (transition : Transition world event changes)
    (numbered : world.Numbered) (own : world.tasks.get? task = some (.handBack name kind stage))
    (acts : event.actor? = some task) :
    HandBackStep world task name kind stage event (world.after changes) := by
  cases transition with
  | relinquishes draw there present idle =>
      cases acts
      cases own.symm.trans there
      refine .of_finish _ rfl (fun other _ => ?_) (by rintro _ ⟨⟩)
      rcases idle with ⟨_, _, rfl⟩ | ⟨_, _, rfl⟩ <;> simp
  | @handsBack _ _ entry _ queue draw there present first serves =>
      cases acts
      cases own.symm.trans there
      have old := numbered.lt_nextTask own
      obtain ⟨nextTask, results⟩ : (world.after (marking kind name entry)).nextTask =
          world.nextTask ∧ (world.after (marking kind name entry)).results = world.results := by
        cases kind <;> exact ⟨rfl, rfl⟩
      refine .drains draw (kind.timeout entry) (kind = .destroy) present serves ?_ ?_ ?_ ?_
      all_goals simp [apply, setTask, nextTask, results, Nat.ne_of_lt old]
  | @concludes _ _ entry _ drain result draw there filed present =>
      cases acts
      cases own.symm.trans there
      unfold releasing
      split
      · refine .of_finish _ rfl (fun other apart => ?_) (by rintro _ ⟨⟩)
        have different : drain ≠ other := fun same => apart (same ▸ rfl)
        simp [different]
      · refine .releases draw ?_ fun other different => result_kept ?_
        · simp [apply, setTask]
        · simp [different]
  | answersRelease answer there =>
      cases acts
      cases own.symm.trans there
      refine .of_finish _ ?_ (fun other _ => ?_) fun _ _ => rfl
      · cases answer <;> rfl
      · simp
  | aborts there =>
      cases acts
      exact .of_finish [] rfl (fun _ _ => List.forall_mem_nil _) (by rintro _ ⟨⟩)
  | flushes draw there runs | answersFlush answer there runs =>
      cases acts
      cases own.symm.trans there
      cases runs
  | abortsFlush there works =>
      cases acts
      cases own.symm.trans there
      cases works
  | entersWait draw there | hears draw there | notes draw there | closesTwice draw there
  | closes draw there | drains draw there | refuses draw there | lapses draw there
  | skips draw there | pulls draw there | refreshes draw there | answersRefresh answer there
  | respondsFailed fault there | respondsPanicked text there =>
      cases acts
      cases own.symm.trans there
  | responds there | elapses there | retries there | timesOut there | overruns there
  | abortsSchedule there =>
      cases acts
      cases own.symm.trans there
  | _ => cases acts

/-- A hand-back goes through its stages, and it ends with the answer about the lock at the
latest. -/
theorem step_of_handBack (numbered : world.Numbered)
    (own : world.tasks.get? task = some (.handBack name kind stage))
    (acts : event.actor? = some task) :
    HandBackStep world task name kind stage event (world.step event).1 := by
  by_cases moves : ∃ changes, Transition world event changes
  · obtain ⟨changes, transition⟩ := moves
    rw [transition.step]
    exact transition.handBackStep numbered own acts
  · -- A hand-back that could go on would do so.
    have blocked := not_exists.mp moves
    rw [(world.decided event).resolve_left moves]
    refine .waits (fun draw same listed => ?_) fun answer same => ?_
    · subst same
      obtain ⟨entry, present⟩ := Option.ne_none_iff_exists'.mp listed
      constructor
      · rintro rfl
        by_cases again : kind = .destroy ∧ entry.destroyed = true
        · exact blocked _ (.relinquishes draw own present (.inl ⟨again.1, again.2, rfl⟩))
        · cases serves : entry.queue with
          | none => exact blocked _ (.relinquishes draw own present (.inr ⟨again, serves, rfl⟩))
          | some queue => exact blocked _ (.handsBack draw own present again serves)
      · rintro drain rfl
        cases filed : world.results.get? drain with
        | none => rfl
        | some result => exact absurd (.concludes draw own filed present) (blocked _)
    · subst same
      rintro rfl
      exact blocked _ (.answersRelease answer own)

/-! ### What a flush leaves -/

/-- All that an event of its own task does to a bounded flush. -/
inductive DrainStep (world : World) (drain : TaskId) (queue : QueueId) (timeout : Nat)
    (final : Bool) (parent : Option TaskId) : Option Nat → Event → World → Prop
  | waits {deadline : Option Nat} {event : Event} {after : World}
      (own : after.tasks.get? drain = some (.drain queue timeout final deadline parent))
      (begun : world.queues.get? queue ≠ none → deadline = none →
        ∀ draw, event ≠ .proceed drain draw)
      (undue : world.queues.get? queue ≠ none → ∀ due, deadline = some due → due ≤ world.clock →
        event ≠ .expire drain) :
      DrainStep world drain queue timeout final parent deadline event after
  | begins (draw : Nat) {after : World} (due : Nat)
      (own : after.tasks.get? drain = some (.drain queue timeout final (some due) parent)) :
      DrainStep world drain queue timeout final parent none (.proceed drain draw) after
  | ends {deadline : Option Nat} {event : Event} {after : World} (result : TaskResult)
      (found : after.results.get? drain = some result) :
      DrainStep world drain queue timeout final parent deadline event after

section DrainStep

variable {queue : QueueId} {timeout : Nat} {final : Bool} {parent : Option TaskId}
  {deadline : Option Nat}

/-- A step of a flush leaves a result if it ends the flush. -/
theorem DrainStep.of_adopting
    (own : world.tasks.get? drain = some (.drain queue timeout final deadline parent))
    (runs : (Task.drain queue timeout final deadline parent).flushOf? = some queue)
    (unforced : event ≠ .expire drain) (step : FlushStep) :
    DrainStep world drain queue timeout final parent deadline event
      (world.after (adopting drain queue final step)) := by
  have adopts : world.after (adopting drain queue final step) = world.adopt drain queue step :=
    adopting_eq own runs step
  rw [adopts]
  cases ends : step.ended with
  | none =>
      refine .waits ?_ (fun _ begun => ?_) fun _ _ _ _ => unforced
      · rw [(world.frame_adopt drain queue step).2.1, ends, if_pos rfl]
        exact own
      · subst begun
        cases runs
  | some ended =>
      refine .ends (resultOf ended) ?_
      rw [world.adopt_results drain queue ends, Table.get?_set, if_pos rfl]

/-- The transitions of the task of a bounded flush. -/
theorem Transition.drainStep (transition : Transition world event changes)
    (own : world.tasks.get? drain = some (.drain queue timeout final deadline parent))
    (acts : event.actor? = some drain) :
    DrainStep world drain queue timeout final parent deadline event (world.after changes) := by
  have ended : ∀ (first : List Change) result,
      DrainStep world drain queue timeout final parent deadline event
        (world.after (first ++ [.finish drain result])) := by
    intro first result
    refine .ends result ?_
    rw [after_append]
    exact (get?_finish _ drain result).2
  cases transition with
  | @flushes _ _ target _ draw there runs here =>
      cases acts
      cases own.symm.trans there
      obtain rfl : queue = target := Option.some.inj (Task.worksOn?_of_flushOf? runs)
      exact .of_adopting own runs (by rintro ⟨⟩) _
  | @answersFlush _ _ target _ answer there runs here =>
      cases acts
      cases own.symm.trans there
      obtain rfl : queue = target := Option.some.inj (Task.worksOn?_of_flushOf? runs)
      exact .of_adopting own runs (by rintro ⟨⟩) _
  | closesTwice draw there =>
      cases acts
      exact ended [_] _
  | closes draw there =>
      cases acts
      cases own.symm.trans there
      refine .begins draw (world.clock + timeout) ?_
      rw [after_append]
      exact get?_setTask _ drain _
  | drains draw there =>
      cases acts
      cases own.symm.trans there
      exact .begins draw (world.clock + timeout) (get?_setTask _ drain _)
  | timesOut there =>
      cases acts
      rw [concluding, ← List.cons_append, ← List.append_assoc]
      exact ended _ _
  | abortsFlush =>
      cases acts
      exact ended _ _
  | aborts =>
      cases acts
      exact ended [] _
  | entersWait draw there | hears draw there | notes draw there | refuses draw there
  | lapses draw there | skips draw there | pulls draw there | relinquishes draw there
  | handsBack draw there | concludes draw there | refreshes draw there
  | answersRelease answer there | answersRefresh answer there | respondsFailed fault there
  | respondsPanicked text there =>
      cases acts
      cases own.symm.trans there
  | responds there | elapses there | retries there | overruns there | abortsSchedule there =>
      cases acts
      cases own.symm.trans there
  | _ => cases acts

/-- A bounded flush begins when it goes on, and ends by itself, by its deadline or by force. -/
theorem step_of_drain
    (own : world.tasks.get? drain = some (.drain queue timeout final deadline parent))
    (acts : event.actor? = some drain) :
    DrainStep world drain queue timeout final parent deadline event (world.step event).1 := by
  by_cases moves : ∃ changes, Transition world event changes
  · obtain ⟨changes, transition⟩ := moves
    rw [transition.step]
    exact transition.drainStep own acts
  · -- A flush that could begin or run out of time would do so.
    have blocked := not_exists.mp moves
    rw [(world.decided event).resolve_left moves]
    refine .waits own (fun listed begun draw same => ?_) fun listed due falls late same => ?_
    · subst same begun
      obtain ⟨held, here⟩ := Option.ne_none_iff_exists'.mp listed
      cases final with
      | false => exact blocked _ (.drains draw own here)
      | true =>
          cases closed : held.destroyed with
          | true => exact blocked _ (.closesTwice draw own here closed)
          | false => exact blocked _ (.closes draw own here closed rfl)
    · subst same falls
      obtain ⟨held, here⟩ := Option.ne_none_iff_exists'.mp listed
      exact blocked _ (.timesOut own here late)

end DrainStep

/-- The result that a schedule takes is that of the flush it waits for, and it waits no longer. -/
theorem schedule_takes {target : QueueId} {result : TaskResult}
    (own : world.tasks.get? task = some (.schedule target)) (acts : event.actor? = some task)
    (found : world.results.get? flush = some result)
    (gone : (world.step event).1.results.get? flush = none) :
    (∃ queue failures, world.queues.get? target = some queue ∧
      queue.schedule = .flushing failures flush) ∧
    ∃ next failures, (world.step event).1.queues.get? target = some next ∧
      next.schedule = .entering failures := by
  rcases world.decided event with ⟨changes, transition⟩ | same
  · rw [transition.step] at gone ⊢
    have taken : .collect flush ∈ changes := by
      rcases result_taken gone with absent | taken
      · exact absurd (found.symm.trans absent) (Option.some_ne_none result)
      · exact taken
    have untaken : ∀ {goal : Prop}, (∀ change ∈ changes, change ≠ .collect flush) → goal :=
      fun none => absurd rfl (none _ taken)
    cases transition with
    | @notes loop name queue failures awaited ended draw schedule here flushing filed =>
        cases acts
        cases own.symm.trans schedule
        by_cases same : awaited = flush
        · subst same
          exact ⟨⟨queue, failures, here, flushing⟩, _, _, queue_set (by simp) (by simp),
            queue.noteFlush_schedule failures ended⟩
        · exact untaken (by simp [same])
    | concludes draw handsBack =>
        cases acts
        cases own.symm.trans handsBack
    | handles present handling | responds other present handling =>
        refine untaken ?_
        cases handling <;> simp
    | relinquishes draw other present idle =>
        refine untaken ?_
        rcases idle with ⟨_, _, rfl⟩ | ⟨_, _, rfl⟩ <;> simp
    | _ => exact untaken (by simp)
  · rw [same, found] at gone
    cases gone

/-- The result that a hand-back takes is that of the flush it waits for. -/
theorem handBack_takes (proper : world.Proper) {stage : HandBackStage} {result : TaskResult}
    (own : world.tasks.get? task = some (.handBack name kind stage))
    (acts : event.actor? = some task) (found : world.results.get? flush = some result)
    (gone : (world.step event).1.results.get? flush = none) : stage = .draining flush := by
  have kept : ∀ {goal : Prop} {after : World},
      after.results.get? flush = world.results.get? flush →
      after.results.get? flush = none → goal := by
    intro _ after same none
    exact absurd (found.symm.trans (same.symm.trans none)) (Option.some_ne_none result)
  have goes := step_of_handBack proper.numbered own acts
  generalize (world.step event).1 = after at goes gone
  refine Decidable.byContradiction fun other => ?_
  cases goes with
  | waits => exact kept rfl gone
  | drains draw timeout final present serves begun drains nextTask results =>
      exact kept (congrArg _ results) gone
  | releases draw releasing results =>
      exact kept (results flush fun same => other (congrArg HandBackStage.draining same)) gone
  | ends ended left results =>
      refine kept (results flush ?_ other) gone
      rintro rfl
      exact Option.some_ne_none _ (left.symm.trans gone)

/-! ### Flushes of schedules -/

/-- The flush that a schedule waits for after an event was launched by it or waited for before. -/
theorem Proper.awaited_flush (proper : world.Proper) {target : QueueId} {next : AckQueue}
    {failures : Nat} (there : (world.step event).1.queues.get? target = some next)
    (flushing : next.schedule = .flushing failures flush) :
    (∃ queue failures, world.queues.get? target = some queue ∧
      queue.schedule = .flushing failures flush) ∨
    ∃ loop, (world.step event).1.tasks.get? flush = some (.scheduledFlush target loop) := by
  cases here : world.queues.get? target with
  | none =>
      obtain ⟨⟨assignment, _, made⟩, _⟩ := proper.made event here there
      cases made with
      | opened | started => cases flushing
  | some queue =>
      obtain ⟨_, after, found, _, step⟩ := proper.queueStep event here
      cases there.symm.trans found
      have same : next.schedule = queue.schedule →
          (∃ held failures, some queue = some held ∧ held.schedule = .flushing failures flush) ∨
          ∃ loop, (world.step event).1.tasks.get? flush = some (.scheduledFlush target loop) :=
        fun kept => .inl ⟨queue, failures, rfl, kept.symm.trans flushing⟩
      cases step with
      | takes takes => exact same takes.steady.1
      | resolves offset verdict =>
          obtain ⟨_, _, _, rest, _⟩ := queue.resolve_rest offset verdict
          exact same (by rw [rest])
      | background changed unlaunched => exact absurd flushing (unlaunched failures flush)
      | launches loop changed waits absent launched =>
          cases waits.symm.trans flushing
          exact .inr ⟨loop, launched⟩
      | begins task ready =>
          rcases ready with rfl | rfl
          · exact same rfl
          · have stopped : ({ queue with destroyed := true } : AckQueue).stopSchedule.schedule =
                .flushing failures flush := flushing
            unfold AckQueue.stopSchedule at stopped
            split at stopped
            · exact .inl ⟨queue, failures, rfl, stopped⟩
            · cases stopped
      | flushes task acts follows => exact same follows.schedule
      | leaves task =>
          obtain ⟨_, _, rest⟩ := queue.closeFlush_rest task
          exact same (by rw [rest])

/-! ### The invariant -/

/-- A flush of a hand-back is in progress, or its result is there. -/
def AwaitsDrain (world : World) (task drain : TaskId) : Prop :=
  (∃ queue timeout final deadline,
    world.tasks.get? drain = some (.drain queue timeout final deadline (some task))) ∨
  ∃ result, world.results.get? drain = some result

/-- Each hand-back that waits for a flush has one of its own, and no schedule waits for that. -/
structure Paired (world : World) : Prop where
  awaits : ∀ task name kind drain,
    world.tasks.get? task = some (.handBack name kind (.draining drain)) →
    drain < world.nextTask ∧ world.AwaitsDrain task drain
  distinct : ∀ first second name kind other otherKind drain,
    world.tasks.get? first = some (.handBack name kind (.draining drain)) →
    world.tasks.get? second = some (.handBack other otherKind (.draining drain)) → first = second
  apart : ∀ target queue failures flush, world.queues.get? target = some queue →
    queue.schedule = .flushing failures flush → flush < world.nextTask ∧
      ∀ task name kind, world.tasks.get? task ≠ some (.handBack name kind (.draining flush))

/-- The result of a flush is there until its hand-back takes it. -/
theorem Paired.keeps (paired : world.Paired) (proper : world.Proper)
    (own : world.tasks.get? task = some (.handBack name kind (.draining drain)))
    (beside : event.actor? ≠ some task) {result : TaskResult}
    (found : world.results.get? drain = some result) :
    ∃ result, (world.step event).1.results.get? drain = some result := by
  cases gone : (world.step event).1.results.get? drain with
  | some kept => exact ⟨kept, rfl⟩
  | none =>
      obtain ⟨taker, other, acts, there, collects⟩ :=
        (proper.doneBy event).untaken drain result found gone
      cases other with
      | scheduledFlush | drain | pull | refresh => cases collects
      | schedule target =>
          obtain ⟨⟨queue, failures, here, flushing⟩, _⟩ := schedule_takes there acts found gone
          exact absurd own ((paired.apart target queue failures drain here flushing).2 _ _ _)
      | handBack otherName otherKind stage =>
          cases handBack_takes proper there acts found gone
          cases paired.distinct _ _ _ _ _ _ _ there own
          exact absurd acts beside

/-- A hand-back that flushes still has its flush, or the result of it, after others act. -/
theorem Paired.awaits_step (paired : world.Paired) (proper : world.Proper)
    (own : world.tasks.get? task = some (.handBack name kind (.draining drain)))
    (beside : event.actor? ≠ some task) : (world.step event).1.AwaitsDrain task drain := by
  rcases (paired.awaits task name kind drain own).2 with
    ⟨queue, timeout, final, deadline, runs⟩ | ⟨result, found⟩
  · by_cases acts : event.actor? = some drain
    · have goes := step_of_drain runs acts
      generalize (world.step event).1 = after at goes
      cases goes with
      | waits still => exact .inl ⟨queue, timeout, final, deadline, still⟩
      | begins draw due begun => exact .inl ⟨queue, timeout, final, some due, begun⟩
      | ends result found => exact .inr ⟨result, found⟩
    · exact .inl ⟨queue, timeout, final, deadline, proper.undisturbed runs nofun acts⟩
  · exact .inr (paired.keeps proper own beside found)

/-- A hand-back that waits for a flush after an event did so before, or it has just started it. -/
theorem Proper.drained (proper : world.Proper)
    (own : (world.step event).1.tasks.get? task = some (.handBack name kind (.draining drain))) :
    (world.tasks.get? task = some (.handBack name kind (.draining drain)) ∧
      ((world.step event).1 = world ∨ event.actor? ≠ some task)) ∨
    event.actor? = some task ∧ drain = world.nextTask ∧
      (world.step event).1.nextTask = world.nextTask + 1 ∧
      (world.step event).1.AwaitsDrain task drain := by
  have turns : ∀ {stage}, world.tasks.get? task = some (.handBack name kind stage) →
      event.actor? = some task →
      (world.tasks.get? task = some (.handBack name kind (.draining drain)) ∧
        ((world.step event).1 = world ∨ event.actor? ≠ some task)) ∨
      event.actor? = some task ∧ drain = world.nextTask ∧
        (world.step event).1.nextTask = world.nextTask + 1 ∧
        (world.step event).1.AwaitsDrain task drain := by
    intro stage there acts
    have goes := step_of_handBack proper.numbered there acts
    generalize (world.step event).1 = after at goes own
    cases goes with
    | waits => exact .inl ⟨own, .inl rfl⟩
    | drains draw timeout final present serves begun drains nextTask results =>
        cases own.symm.trans begun
        exact .inr ⟨acts, rfl, nextTask, .inl ⟨_, timeout, final, none, drains⟩⟩
    | releases draw releasing => cases own.symm.trans releasing
    | ends gone => exact absurd (own.symm.trans gone) (Option.some_ne_none _)
  rcases (proper.doneBy event).arrived task _ own with
    same | ⟨_, start⟩ | ⟨acts, old, there, origin⟩
  · by_cases acts : event.actor? = some task
    · exact turns same acts
    · exact .inl ⟨same, .inr acts⟩
  · cases start
  · cases old with
    | schedule | scheduledFlush | drain | pull | refresh => cases origin
    | handBack otherName otherKind stage =>
        cases origin
        exact turns there acts

/-- An event leaves hand-backs and their flushes paired. -/
theorem Paired.step (paired : world.Paired) (proper : world.Proper) (filed : world.Filed)
    (event : Event) : (world.step event).1.Paired := by
  have done := proper.doneBy event
  have awaits : ∀ task name kind drain,
      (world.step event).1.tasks.get? task = some (.handBack name kind (.draining drain)) →
      drain < (world.step event).1.nextTask ∧ (world.step event).1.AwaitsDrain task drain := by
    intro task name kind drain own
    rcases proper.drained own with ⟨before, same | beside⟩ | ⟨_, rfl, nextTask, started⟩
    · rw [same]
      exact paired.awaits task name kind drain before
    · exact ⟨Nat.lt_of_lt_of_le (paired.awaits task name kind drain before).1 done.nextTask,
        paired.awaits_step proper before beside⟩
    · rw [nextTask]
      exact ⟨Nat.lt_succ_self _, started⟩
  refine ⟨awaits, ?_, ?_⟩
  · intro first second name kind other otherKind drain one two
    have older : ∀ {task name kind},
        world.tasks.get? task = some (.handBack name kind (.draining world.nextTask)) → False :=
      fun own => Nat.lt_irrefl _ (paired.awaits _ _ _ _ own).1
    rcases proper.drained one with ⟨before, _⟩ | ⟨acts, rfl, _⟩
    · rcases proper.drained two with ⟨also, _⟩ | ⟨_, rfl, _⟩
      · exact paired.distinct _ _ _ _ _ _ _ before also
      · exact (older before).elim
    · rcases proper.drained two with ⟨also, _⟩ | ⟨alike, _⟩
      · exact (older also).elim
      · exact Option.some.inj (acts.symm.trans alike)
  · intro target next failures flush there flushing
    rcases proper.awaited_flush there flushing with ⟨queue, others, here, waits⟩ | ⟨loop, launched⟩
    · obtain ⟨used, none⟩ := paired.apart target queue others flush here waits
      refine ⟨Nat.lt_of_lt_of_le used done.nextTask, fun task name kind own => ?_⟩
      rcases proper.drained own with ⟨before, _⟩ | ⟨_, rfl, _⟩
      · exact none task name kind before
      · exact Nat.lt_irrefl _ used
    · refine ⟨(proper.step event).numbered.lt_nextTask launched, fun task name kind own => ?_⟩
      rcases (awaits task name kind flush own).2 with ⟨_, _, _, _, runs⟩ | ⟨result, found⟩
      · cases launched.symm.trans runs
      · have gone := (done.filed filed flush result found).2
        exact absurd (launched.symm.trans gone) (Option.some_ne_none _)

/-! ### All invariants -/

/-- All that holds of a client whatever happens to it. -/
structure Regular (world : World) : Prop where
  proper : world.Proper
  filed : world.Filed
  paired : world.Paired
  handed : ∀ name, ∃ begun released, world.Handover name begun released
  served : ∀ name entry queue, world.entries.get? name = some entry → entry.queue = some queue →
    ∃ held, world.queues.get? queue = some held

/-- An event keeps a client regular. -/
theorem Regular.step (regular : world.Regular) (event : Event) :
    (world.step event).1.Regular where
  proper := regular.proper.step event
  filed := (regular.proper.doneBy event).filed regular.filed
  paired := regular.paired.step regular.proper regular.filed event
  handed name := by
    obtain ⟨_, _, handover⟩ := regular.handed name
    exact ⟨_, _, handover.step regular.proper event⟩
  served name entry queue found serves := by
    rcases regular.proper.listed found with
      ⟨earlier, present, endures⟩ | ⟨rfl, consume, rfl⟩
    · obtain ⟨held, here⟩ := regular.served name earlier queue present
        (endures.queue.symm.trans serves)
      exact regular.proper.present [event] here
    · obtain ⟨made, lists⟩ := regular.proper.lists entry.assignment consume
      have same : made = entry := by
        rw [lists.entries, if_pos rfl] at found
        exact Option.some.inj found
      exact lists.serves queue (same ▸ serves)

/-- A run keeps a client regular. -/
theorem Regular.run (regular : world.Regular) (events : List Event) :
    (world.run events).Regular := by
  induction events generalizing world with
  | nil => exact regular
  | cons event rest ih => exact ih (regular.step event)

/-- After every run, all invariants hold. In particular, each hand-back that waits for a flush has
one of its own. -/
theorem run_regular (epoch : Nat) (settings : Settings) (events : List Event) :
    ((initial epoch settings).run events).Regular := by
  have paired : (initial epoch settings).Paired := by
    refine ⟨fun _ _ _ _ own => ?_, fun _ _ _ _ _ _ _ own => ?_, fun _ queue _ _ here => ?_⟩
    · exact absurd own.symm (Option.some_ne_none _)
    · exact absurd own.symm (Option.some_ne_none _)
    · exact absurd here.symm (Option.some_ne_none queue)
  have start : (initial epoch settings).Regular :=
    { proper := proper_initial epoch settings
      filed := run_filed epoch settings []
      paired := paired
      handed := fun name => ⟨[], [], handover_initial epoch settings name⟩
      served := fun _ entry _ found => absurd found.symm (Option.some_ne_none entry) }
  exact start.run events

end World

end PullConsumer
