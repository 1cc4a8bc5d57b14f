import PullConsumer.Client.Waiting
import PullConsumer.Proofs.Client.Actors
import PullConsumer.Proofs.Client.Returns
import PullConsumer.Proofs.Client.Teardown
import PullConsumer.Proofs.Queue.Attempts

/-! # The task of a flush

A flush goes on, gets its answers and is cut off by events of its own task (`World.Proper.acts`).
All other events leave it as it is if it holds the send lock, and take nothing off its queue
(`World.Proper.beside`). What has ended does not come back (`World.Proper.runs_before`).
-/

namespace PullConsumer.World

variable {world after : World} {name : QueueId} {queue next : AckQueue} {task : TaskId}
  {event : Event} {told : Account} {phase : FlushPhase}

/-! ### Its own events -/

/-- A flush waits for the answer to an acknowledgment in one phase only. -/
theorem awaited?_eq_ack_iff (here : world.queues.get? name = some queue)
    (owns : world.flushOf? task = some name) :
    world.awaited? task = some .ack ↔ ∃ ready, queue.flushes.get? task = some (.acking ready) := by
  obtain ⟨own, present, runs⟩ := Option.bind_eq_some_iff.mp owns
  cases own with
  | scheduledFlush target parent =>
      cases runs
      rcases found : queue.flushes.get? task with _ | (_ | _ | _ | _ | _) <;>
        simp [awaited?, present, here, found]
  | drain target timeout final deadline parent =>
      cases deadline with
      | none => cases runs
      | some deadline =>
          cases runs
          rcases found : queue.flushes.get? task with _ | (_ | _ | _ | _ | _) <;>
            simp [awaited?, present, here, found]
  | schedule | pull | handBack | refresh => cases runs

/-- Whether an event cancels a task or ends it at its deadline. -/
def Cuts (world : World) (task : TaskId) : Event → Prop
  | .abort other => other = task
  | .expire other => other = task ∧ ∃ due, world.due? task = some due ∧ due ≤ world.clock
  | _ => False

/-- What an event of its own task does to a flush. -/
inductive Acts (world : World) (name : QueueId) (queue : AckQueue) (task : TaskId) :
    Event → World → Prop
  | proceeds (draw : Nat) : Acts world name queue task (.proceed task draw)
      (world.adopt task name (queue.proceedFlush task))
  | answers (answer : Answer Unit) : Acts world name queue task (.answer task answer)
      (world.adopt task name (queue.answerFlush task answer))
  /-- The flush waits for no pull. -/
  | unheard (answer : Answer PullResponse) : Acts world name queue task (.respond task answer) world
  | early (undue : ¬ world.Cuts task (.expire task)) :
      Acts world name queue task (.expire task) world
  /-- The flush is dropped, and its task ends. -/
  | drops {event : Event} {after : World} (cuts : world.Cuts task event)
      (there : after.queues.get? name = some (queue.closeFlush task).1)
      (gone : after.tasks.get? task = none) (tells : world.Tells [] after) :
      Acts world name queue task event after

/-- A flush waits for the answer to no pull. -/
theorem respond_flush (owns : world.flushOf? task = some name) (answer : Answer PullResponse) :
    world.respond task answer = world ∧ world.handed name (.respond task answer) = [] := by
  have waits : ∀ {entry size timeout hook request}, world.tasks.get? task ≠
      some (.pull entry size timeout hook (some request)) := by
    intro entry size timeout hook request own
    cases (flushOf?_of_get? own).symm.trans owns
  constructor
  · unfold respond
    split
    · exact absurd ‹_› waits
    · rfl
  · cases answer with
    | failed | panicked => rfl
    | value response => simp only [handed]

/-- Changes that drop a flush along with its task. -/
theorem drops_acts (proper : world.Proper) (owns : world.flushOf? task = some name)
    (cuts : world.Cuts task event) {later : List Change} {result : TaskResult}
    (silent : Account.ofEffects (Change.effectsOf later) = []) (ends : .finish task result ∈ later)
    (only : ∀ change ∈ later, change = .finish task result ∨ ∃ effect, change = .effect effect) :
    Acts world name queue task event (world.after (dropping task name queue ++ later)) := by
  obtain ⟨own, present, _⟩ := Option.bind_eq_some_iff.mp owns
  have ⟨there, gone⟩ : (world.after (dropping task name queue ++ later)).queues.get? name =
        some (queue.closeFlush task).1 ∧
      (world.after (dropping task name queue ++ later)).tasks.get? task = none :=
    after_dropping (proper.numbered.lt_nextTask present) ends only
  refine .drops cuts there gone ?_
  have tells := world.tells_after (dropping task name queue ++ later)
  rw [ofEffects_dropping silent] at tells
  exact tells

/-- What the passing of its deadline does to a flush is one of the cases of `Acts`. -/
theorem expire_acts (proper : world.Proper) (here : world.queues.get? name = some queue)
    (owns : world.flushOf? task = some name) :
    Acts world name queue task (.expire task) (world.step (.expire task)).1 := by
  obtain ⟨own, present, runs⟩ := Option.bind_eq_some_iff.mp owns
  cases own with
  | scheduledFlush target parent =>
      have endless : world.due? task = none := by simp only [due?, present]
      have still : (world.step (.expire task)).1 = world := by
        simp only [World.step, expire, endless, Option.all_none, if_true]
      rw [still]
      refine .early ?_
      rintro ⟨_, due, elapses, _⟩
      cases endless.symm.trans elapses
  | drain target timeout final deadline parent =>
      cases deadline with
      | none => cases runs
      | some deadline =>
          cases runs
          have due : world.due? task = some deadline := by simp only [due?, present]
          by_cases late : deadline ≤ world.clock
          · rw [(Transition.timesOut present here late).step]
            have cuts : world.Cuts task (.expire task) := ⟨rfl, deadline, due, late⟩
            have ends : .finish task (resultOf (.outcome .timedOut)) ∈
                concluding task (queue.closeFlush task).1 final (.outcome .timedOut) :=
              List.mem_append_right _ List.mem_cons_self
            refine drops_acts proper owns cuts ?_ (List.mem_cons_of_mem _ ends) (by simp)
            simp [Change.effect?, Mark.ofEffect?]
          · have still : (world.step (.expire task)).1 = world := by
              simp only [World.step, expire, due, Option.all_some, Nat.not_le.mp late, decide_true,
                if_true]
            rw [still]
            refine .early ?_
            rintro ⟨_, other, elapses, passed⟩
            cases due.symm.trans elapses
            exact late passed
  | schedule | pull | handBack | refresh => cases runs

/-- What its cancellation does to a flush is one of the cases of `Acts`. -/
theorem abort_acts (proper : world.Proper) (here : world.queues.get? name = some queue)
    (owns : world.flushOf? task = some name) :
    Acts world name queue task (.abort task) (world.step (.abort task)).1 := by
  obtain ⟨own, present, runs⟩ := Option.bind_eq_some_iff.mp owns
  rw [(Transition.abortsFlush present (Task.worksOn?_of_flushOf? runs) here).step]
  have cuts : world.Cuts task (.abort task) := rfl
  exact drops_acts proper owns cuts rfl List.mem_cons_self (by simp)

/-- A flush is the work of its task. -/
theorem Proper.acts (proper : world.Proper) (here : world.queues.get? name = some queue)
    (owns : world.flushOf? task = some name) (actor : event.actor? = some task) :
    Acts world name queue task event (world.step event).1 := by
  cases event with
  | proceed other draw =>
      cases actor
      rw [(step_of_flushOf? here owns draw (.value ())).1]
      exact .proceeds draw
  | answer other answer =>
      cases actor
      rw [(step_of_flushOf? here owns 0 answer).2]
      exact .answers answer
  | respond other answer =>
      cases actor
      have still : (world.step (.respond task answer)).1 = world := (respond_flush owns answer).1
      rw [still]
      exact .unheard answer
  | expire other =>
      cases actor
      exact expire_acts proper here owns
  | abort other =>
      cases actor
      exact abort_acts proper here owns
  | _ => exact nomatch actor

namespace Acts

/-- A task that runs a flush goes on to do so, or ends. -/
theorem tasks (acts : Acts world name queue task event after) :
    after.tasks.get? task = world.tasks.get? task ∨ after.tasks.get? task = none := by
  cases acts with
  | proceeds | answers =>
      rw [(frame_adopt world task name _).2.1]
      split
      · exact .inl rfl
      · exact .inr ((Table.get?_erase ..).trans (if_pos rfl))
  | unheard | early => exact .inl rfl
  | drops _ _ gone => exact .inr gone

end Acts

/-- The account of an event that neither hands over messages nor changes the history. -/
theorem lines_of_silent (silent : world.handed name event = [])
    (tells : world.Tells [] (world.step event).1) : world.lines name event = [] := by
  rw [lines, silent, offers_nil, tells.ofEffects_since]
  rfl

/-- An event of a flush that accepts no acknowledgment completes the entries whose messages are back
at the broker, and leaves the queue as it was otherwise. -/
theorem Acts.intact (acts : Acts world name queue task event after)
    (same : (world.step event).1 = after) (proper : world.Proper)
    (here : world.queues.get? name = some queue) (owns : world.flushOf? task = some name)
    (unaccepted : event = .answer task (.value ()) →
      ∀ ready, queue.flushes.get? task ≠ some (.acking ready)) :
    ∃ next, (world.step event).1.queues.get? name = some next ∧
      queue.Intact next (ReturnLog.takenBack (world.returnsIn name event)) := by
  have sound := (proper.tidy name).sound queue here
  -- What is told about returned messages is read off the lines.
  have intact : ∀ {next : AckQueue} {account : Account},
      (world.step event).1.queues.get? name = some next → world.rejectedIn name event = [] →
      world.lines name event = account →
      queue.Intact next (ReturnLog.takenBack (account.filterMap (queue.returnMark? next))) →
      ∃ next, (world.step event).1.queues.get? name = some next ∧
        queue.Intact next (ReturnLog.takenBack (world.returnsIn name event)) := by
    intro next account there unrejected lines intact
    refine ⟨next, there, ?_⟩
    rw [returnsIn_of_get? here there, unrejected, lines, List.nil_append]
    exact intact
  have untouched : after = world → world.handed name event = [] → world.rejectedIn name event = [] →
      ∃ next, (world.step event).1.queues.get? name = some next ∧
        queue.Intact next (ReturnLog.takenBack (world.returnsIn name event)) := by
    intro unchanged silent unrejected
    have whole := same.trans unchanged
    have there : (world.step event).1.queues.get? name = some queue := by
      rw [whole]
      exact here
    refine intact there unrejected (lines_of_silent silent ?_) (.of_same rfl rfl rfl rfl)
    rw [whole]
    exact .of_eq rfl
  cases acts with
  | proceeds draw =>
      obtain ⟨there, lines⟩ := proper.adopts here owns
        (sound.turns.proceedFlush_follows task) rfl rfl same
      exact intact there rfl lines ((queue.proceeds task).intact _)
  | answers answer =>
      obtain ⟨there, lines⟩ := proper.adopts here owns
        (sound.turns.answerFlush_follows task answer) rfl rfl same
      refine intact there rfl lines ((queue.answers task answer).intact sound _ fun accepts => ?_)
      exact unaccepted (accepts ▸ rfl)
  | unheard answer => exact untouched rfl (respond_flush owns answer).2 rfl
  | early undue => exact untouched rfl rfl rfl
  | drops cuts there _ tells =>
      rw [← same] at there tells
      cases event with
      | expire | abort =>
          exact intact there rfl (lines_of_silent rfl tells) (queue.closeFlush_intact task)
      | _ => exact cuts.elim

/-- A flush at the lock stays there until it ends, if no acknowledgment is accepted. -/
theorem Acts.holds (acts : Acts world name queue task event after)
    (here : world.queues.get? name = some queue)
    (unaccepted : event = .answer task (.value ()) →
      ∀ ready, queue.flushes.get? task ≠ some (.acking ready))
    (runs : queue.flushes.get? task = some phase) (holds : phase.holdsLock = true)
    (there : after.queues.get? name = some next) (left : next.flushes.get? task ≠ none) :
    ∃ phase, next.flushes.get? task = some phase ∧ phase.holdsLock = true := by
  cases acts with
  | proceeds draw =>
      rw [(frame_adopt world task name _).1, Table.get?_set, if_pos rfl] at there
      cases there
      exact (queue.proceeds task).holds runs holds left
  | answers answer =>
      rw [(frame_adopt world task name _).1, Table.get?_set, if_pos rfl] at there
      cases there
      refine (queue.answers task answer).holds (fun accepts => ?_) runs holds left
      exact unaccepted (accepts ▸ rfl)
  | unheard | early =>
      cases here.symm.trans there
      exact ⟨phase, runs, holds⟩
  | drops _ closed =>
      cases closed.symm.trans there
      exact absurd (queue.closeFlush_gone task) left

/-! ### Its life -/

/-- What has ended does not come back. -/
theorem Proper.ended_run (proper : world.Proper) (used : task < world.nextTask)
    (ended : world.tasks.get? task = none) (events : List Event) :
    task < (world.run events).nextTask ∧ (world.run events).tasks.get? task = none := by
  induction events generalizing world with
  | nil => exact ⟨used, ended⟩
  | cons event rest ih =>
      have done := proper.doneBy event
      exact ih (proper.step event) (Nat.lt_of_lt_of_le used done.nextTask)
        (done.ended task used ended).1

/-- No event of another task ends a flush. -/
theorem Proper.stays_step (proper : world.Proper) (owns : world.flushOf? task = some name)
    (other : event.actor? ≠ some task) : (world.step event).1.flushOf? task = some name := by
  obtain ⟨own, present, runs⟩ := Option.bind_eq_some_iff.mp owns
  have unscheduled : ∀ queue, own ≠ .schedule queue := by
    rintro queue rfl
    cases runs
  exact (flushOf?_of_get? (proper.undisturbed present unscheduled other)).trans runs

/-- A task that runs a flush goes on to run it, or ends. -/
theorem Proper.flushOf?_step (proper : world.Proper) (owns : world.flushOf? task = some name)
    (event : Event) : (world.step event).1.flushOf? task = some name ∨
      task < (world.step event).1.nextTask ∧ (world.step event).1.tasks.get? task = none := by
  by_cases actor : event.actor? = some task
  · obtain ⟨own, present, runs⟩ := Option.bind_eq_some_iff.mp owns
    obtain ⟨queue, here, _⟩ := ((proper.tidy name).flushes task).mp owns
    rcases (proper.acts here owns actor).tasks with same | ended
    · exact .inl ((flushOf?_of_get? (same.trans present)).trans runs)
    · have done := proper.doneBy event
      exact .inr ⟨Nat.lt_of_lt_of_le (proper.numbered.lt_nextTask present) done.nextTask, ended⟩
  · exact .inl (proper.stays_step owns actor)

/-- A task that flushes a queue flushes it still after a run, or is gone. -/
theorem Proper.flushOf?_run (proper : world.Proper) (owns : world.flushOf? task = some name)
    (events : List Event) : (world.run events).flushOf? task = some name ∨
      task < (world.run events).nextTask ∧ (world.run events).tasks.get? task = none := by
  induction events generalizing world with
  | nil => exact .inl owns
  | cons event rest ih =>
      rcases proper.flushOf?_step owns event with runs | ⟨used, ended⟩
      · exact ih (proper.step event) runs
      · exact .inr ((proper.step event).ended_run used ended rest)

/-- A flush that is left after some events has been there all along. -/
theorem Proper.runs_before (proper : world.Proper) (owns : world.flushOf? task = some name)
    {before rest : List Event} (left : (world.run (before ++ rest)).flushOf? task = some name) :
    (world.run before).flushOf? task = some name := by
  rcases proper.flushOf?_run owns before with runs | ⟨used, ended⟩
  · exact runs
  · obtain ⟨_, gone⟩ := (proper.run before).ended_run used ended rest
    rw [run_append, flushOf?, gone] at left
    cases left

/-! ### What others do -/

/-- The intake of messages leaves the flushes alone and extends the queue. -/
theorem takes_extends (takes : queue.Takes next) :
    next.flushes = queue.flushes ∧ queue.Extends next := by
  induction takes with
  | refl => exact ⟨rfl, .refl queue⟩
  | @register middle _ message ih =>
      obtain ⟨_, _, same⟩ := middle.register_rest message
      exact ⟨(congrArg AckQueue.flushes same).trans ih.1, ih.2.trans (.register middle message)⟩
  | @complete middle _ offset ih =>
      obtain ⟨_, _, _, same, _⟩ := middle.resolve_rest offset .complete
      exact ⟨(congrArg AckQueue.flushes same).trans ih.1,
        ih.2.trans (.resolve middle offset .complete)⟩

/-- A flush that is opened is another one. -/
theorem openFlush_extends {middle : AckQueue} {other : TaskId}
    (same : middle.flushes = queue.flushes) (extending : queue.Extends middle)
    (absent : middle.flushes.get? other = none) (here : queue.flushes.get? task = some phase) :
    (middle.openFlush other).flushes.get? task = some phase ∧
      queue.Extends (middle.openFlush other) := by
  have different : other ≠ task := by
    rintro rfl
    rw [same, here] at absent
    exact nomatch absent
  refine ⟨?_, extending.trans (.of_same rfl rfl rfl)⟩
  exact (Table.get?_set ..).trans ((if_neg different).trans ((congrArg _ same).trans here))

/-- What a step of a queue tells is about the flush of the task that takes it. -/
theorem QueueStep.omits (step : QueueStep world name queue event after told next)
    (other : event.actor? ≠ some task) : told.Omits task := by
  cases step with
  | flushes opener acts follows =>
      exact fun mark member about =>
        other (acts.trans ((follows.about mark member).symm.trans about))
  | _ => exact fun _ => nofun

/-- **Others only add.** While a flush holds the lock, no step that is not about it takes anything
off the queue. -/
theorem QueueStep.beside (step : QueueStep world name queue event after told next)
    (turns : queue.Turns)
    (omits : told.Omits task) (here : queue.flushes.get? task = some phase)
    (holds : phase.holdsLock = true) :
    next.flushes.get? task = none ∨ next.flushes.get? task = some phase ∧ queue.Extends next := by
  cases step with
  | takes takes =>
      obtain ⟨same, extending⟩ := takes_extends takes
      exact .inr ⟨(congrArg _ same).trans here, extending⟩
  | resolves offset verdict =>
      exact (AckQueue.Move.resolve offset verdict).beside turns (fun _ => nofun) here holds
  | background changed =>
      exact (AckQueue.Move.background changed).beside turns (fun _ => nofun) here holds
  | launches loop changed flushing absent launched =>
      obtain ⟨_, _, _, _, rfl⟩ := changed.rest
      exact .inr (openFlush_extends rfl (.of_same rfl rfl rfl) absent here)
  | begins opener ready absent =>
      rcases ready with same | rfl
      · rw [same] at absent ⊢
        exact .inr (openFlush_extends rfl (.refl queue) absent here)
      · obtain ⟨_, _, _, _, same⟩ := (AckQueue.Background.destroy : queue.Background _).rest
        rw [same] at absent ⊢
        exact .inr (openFlush_extends rfl (.of_same rfl rfl rfl) absent here)
  | flushes opener acts follows =>
      rcases follows.acted with ⟨same, _⟩ | move
      · rw [same]
        exact .inr ⟨here, .refl queue⟩
      · exact move.beside turns omits here holds
  | leaves opener =>
      exact (AckQueue.Move.leave opener).beside turns (fun _ => nofun) here holds

/-- An event of another task leaves a flush at the lock. -/
theorem Proper.beside (proper : world.Proper) (here : world.queues.get? name = some queue)
    (other : event.actor? ≠ some task) (runs : queue.flushes.get? task = some phase)
    (holds : phase.holdsLock = true) :
    ∃ next, (world.step event).1.queues.get? name = some next ∧
      next.flushes.get? task = some phase ∧ queue.Extends next := by
  have owns := (proper.tidy name).owns here runs
  obtain ⟨told, next, there, _, step⟩ := proper.queueStep event here
  refine ⟨next, there, ?_⟩
  rcases step.beside ((proper.tidy name).sound queue here).turns (step.omits other) runs holds with
    gone | stays
  · have left := (((proper.step event).tidy name).runs there task).mp (proper.stays_step owns other)
    rw [gone] at left
    exact nomatch left
  · exact stays

/-- No step that is not about a flush makes it wait for an answer. -/
theorem QueueStep.sending_before (step : QueueStep world name queue event after told next)
    (omits : told.Omits task) (there : next.flushes.get? task = some phase)
    (sending : phase.isSending = true) : queue.flushes.get? task = some phase := by
  -- A flush that is opened waits for nothing yet.
  have opened : ∀ {middle : AckQueue} {opener : TaskId}, middle.flushes = queue.flushes →
      (middle.openFlush opener).flushes.get? task = some phase →
      queue.flushes.get? task = some phase := by
    intro middle opener same found
    rw [AckQueue.openFlush, Table.get?_set] at found
    split at found
    · cases found
      exact absurd sending Bool.false_ne_true
    · rw [← same]
      exact found
  cases step with
  | takes takes =>
      rw [(takes_extends takes).1] at there
      exact there
  | resolves offset verdict =>
      exact (AckQueue.Move.resolve offset verdict).sending_before (.nil task) there sending
  | background changed =>
      exact (AckQueue.Move.background changed).sending_before (.nil task) there sending
  | launches loop changed flushing absent launched =>
      obtain ⟨_, _, _, _, rfl⟩ := changed.rest
      exact opened rfl there
  | begins opener ready absent =>
      rcases ready with same | rfl
      · rw [same] at there
        exact opened rfl there
      · obtain ⟨_, _, _, _, same⟩ := (AckQueue.Background.destroy : queue.Background _).rest
        rw [same] at there
        exact opened rfl there
  | flushes opener acts follows =>
      rcases follows.acted with ⟨same, _⟩ | move
      · rw [same] at there
        exact there
      · exact move.sending_before omits there sending
  | leaves opener =>
      exact (AckQueue.Move.leave opener).sending_before (.nil task) there sending

end PullConsumer.World
