import PullConsumer.Proofs.Client.FlushTasks

/-! # Failed attempts to transmit

An attempt of a flush to transmit begins with its request for the send lock. If no acknowledgment of
it is accepted, it completes the entries whose messages went back to the broker and changes nothing
else about the queue. When it fails it leaves the lock to others, and what others did in the
meantime is kept (`World.run_atomic`).
-/

namespace PullConsumer.World

variable {world : World} {name : QueueId} {queue : AckQueue} {task : TaskId}
  {event last : Event} {attempt : List Event}

/-- Whether an event makes the attempt of a flush to transmit fail. -/
inductive Fails (world : World) (name : QueueId) (task : TaskId) : Event → Prop
  | answer {queue : AckQueue} {answer : Answer Unit} (here : world.queues.get? name = some queue)
      (fails : queue.Fails task answer) : Fails world name task (.answer task answer)
  /-- The task is cancelled or has reached its deadline, wherever its flush is at that time. -/
  | cut {event : Event} (owns : world.flushOf? task = some name) (cuts : world.Cuts task event) :
      Fails world name task event

/-- An attempt of a flush to transmit, among other events. It acknowledges nothing, and the last
event makes it fail. -/
structure Attempt (world : World) (name : QueueId) (task : TaskId) (attempt : List Event)
    (last : Event) : Prop where
  begins : ∃ queue, world.queues.get? name = some queue ∧ queue.flushes.get? task = some .fresh
  unaccepted : ∀ before after, attempt = before ++ .answer task (.value ()) :: after →
    (world.run before).awaited? task ≠ some .ack
  fails : (world.run attempt).Fails name task last

/-- What a failed attempt of a flush does and what it leaves to others. -/
structure Atomic (world : World) (name : QueueId) (task : TaskId) (events : List Event) : Prop where
  /-- Each step of its own completes the entries whose messages are back at the broker. -/
  own : ∀ before event after, events = before ++ event :: after → event.actor? = some task →
    ∃ queue next, (world.run before).queues.get? name = some queue ∧
      (world.run (before ++ [event])).queues.get? name = some next ∧
      queue.Intact next (ReturnLog.takenBack ((world.run before).returnsIn name event))
  /-- What others register and resolve at any time in between is kept. -/
  kept : ∀ before after, events = before ++ after →
    ∃ queue next, (world.run before).queues.get? name = some queue ∧
      (world.run events).queues.get? name = some next ∧
      queue.Keeps next (ReturnLog.takenBack (returns name (world.run before) after)) ∧
      (queue.lock.holder = some task → queue.Extends next)
  /-- The lock is free for the next flush. -/
  released : ∃ before event queue next, events = before ++ [event] ∧
    (world.run before).queues.get? name = some queue ∧
    (world.run events).queues.get? name = some next ∧ queue.PassesLock next task

/-! ### The end of an attempt -/

/-- A task whose flush fails runs a flush of the queue. -/
theorem Fails.owns (fails : world.Fails name task event) (proper : world.Proper) :
    world.flushOf? task = some name := by
  cases fails with
  | answer here fails =>
      have tidy := proper.tidy name
      cases fails with
      | returning returning fault => exact tidy.owns here returning
      | acking acking fault => exact tidy.owns here acking
      | panicked awaits text =>
          obtain ⟨_, _, there, _⟩ := AckQueue.exists_callOf?_of_awaitsAnswer awaits
          exact tidy.owns here there
  | cut owns cuts => exact owns

/-- The event that fails an attempt is one of its task, and accepts nothing. -/
theorem Fails.actor (fails : world.Fails name task event) :
    event.actor? = some task ∧ event ≠ .answer task (.value ()) := by
  cases fails with
  | answer here fails => cases fails <;> exact ⟨rfl, nofun⟩
  | cut owns cuts =>
      cases event with
      | expire other => exact ⟨congrArg some cuts.1, nofun⟩
      | abort other => exact ⟨congrArg some cuts, nofun⟩
      | _ => exact cuts.elim

/-- An attempt that fails closes its flush. -/
theorem Fails.closes (fails : world.Fails name task event) (proper : world.Proper)
    (here : world.queues.get? name = some queue) :
    (world.step event).1.queues.get? name = some (queue.closeFlush task).1 := by
  have owns := fails.owns proper
  have acts := proper.acts here owns fails.actor.1
  cases fails with
  | answer there fails =>
      cases here.symm.trans there
      rw [(step_of_flushOf? here owns 0 _).2, (frame_adopt world task name _).1, Table.get?_set,
        if_pos rfl, fails.closes]
  | cut _ cuts =>
      generalize (world.step event).1 = after at acts
      cases acts with
      | proceeds | answers | unheard => exact cuts.elim
      | early undue => exact absurd cuts undue
      | drops _ there => exact there

/-! ### An attempt under the lock -/

/-- A list of events with one at its end, split before any event. -/
theorem split_concat {before after : List Event}
    (split : attempt ++ [last] = before ++ event :: after) :
    (before = attempt ∧ event = last ∧ after = []) ∨
      ∃ rest, after = rest ++ [last] ∧ attempt = before ++ event :: rest := by
  rcases List.eq_nil_or_concat after with rfl | ⟨rest, final, rfl⟩
  · obtain ⟨same, ends⟩ := List.append_inj' split rfl
    exact .inl ⟨same.symm, (List.cons.inj ends).1.symm, rfl⟩
  · rw [List.concat_eq_append, ← List.cons_append, ← List.append_assoc] at split
    obtain ⟨same, ends⟩ := List.append_inj' split rfl
    obtain rfl := (List.cons.inj ends).1
    exact .inr ⟨rest, List.concat_eq_append, same⟩

namespace Attempt

variable {before after : List Event}

/-- The flush is there until the attempt fails. -/
theorem runs (attempts : world.Attempt name task attempt last) (proper : world.Proper)
    (split : attempt ++ [last] = before ++ event :: after) :
    (world.run before).flushOf? task = some name := by
  obtain ⟨queue, here, fresh⟩ := attempts.begins
  have owns := (proper.tidy name).owns here fresh
  have left := attempts.fails.owns (proper.run attempt)
  rcases split_concat split with ⟨rfl, _, _⟩ | ⟨rest, _, whole⟩
  · exact left
  · rw [whole] at left
    exact proper.runs_before owns left

/-- No acknowledgment of the attempt is accepted. -/
theorem unaccepts (attempts : world.Attempt name task attempt last) (proper : world.Proper)
    (split : attempt ++ [last] = before ++ event :: after)
    (here : (world.run before).queues.get? name = some queue)
    (accepts : event = .answer task (.value ())) (ready : List Int) :
    queue.flushes.get? task ≠ some (.acking ready) := by
  intro acking
  subst accepts
  rcases split_concat split with ⟨_, same, _⟩ | ⟨rest, _, whole⟩
  · exact attempts.fails.actor.2 same.symm
  · exact attempts.unaccepted before rest whole
      ((awaited?_eq_ack_iff here (attempts.runs proper split)).mpr ⟨ready, acking⟩)

/-- An event of its own leaves the queue of an attempt intact. -/
theorem own_intact (attempts : world.Attempt name task attempt last) (proper : world.Proper)
    (split : attempt ++ [last] = before ++ event :: after) (actor : event.actor? = some task)
    (here : (world.run before).queues.get? name = some queue) :
    ∃ next, (world.run (before ++ [event])).queues.get? name = some next ∧
      queue.Intact next (ReturnLog.takenBack ((world.run before).returnsIn name event)) := by
  rw [run_append]
  have acts := (proper.run before).acts here (attempts.runs proper split) actor
  exact acts.intact rfl (proper.run before) here (attempts.runs proper split)
    (attempts.unaccepts proper split here)

/-- While an attempt holds the lock nothing leaves the queue, and the lock stays with it to its
end. -/
theorem step_extends (attempts : world.Attempt name task attempt last) (proper : world.Proper)
    (split : attempt ++ [last] = before ++ event :: after)
    (here : (world.run before).queues.get? name = some queue)
    (holds : queue.lock.holder = some task) :
    ∃ next, (world.run (before ++ [event])).queues.get? name = some next ∧ queue.Extends next ∧
      (next.flushes.get? task = none ∨ next.lock.holder = some task) := by
  have turns := (((proper.run before).tidy name).sound queue here).turns
  obtain ⟨phase, runs, held⟩ := (turns.holder task).mp holds
  have after := (proper.run before).step event
  by_cases actor : event.actor? = some task
  · obtain ⟨next, there, intact⟩ := attempts.own_intact proper split actor here
    refine ⟨next, there, intact.extending, ?_⟩
    rw [run_append] at there
    by_cases left : next.flushes.get? task = none
    · exact .inl left
    · have acts := (proper.run before).acts here (attempts.runs proper split) actor
      have stays := acts.holds here (attempts.unaccepts proper split here) runs held there left
      exact .inr ((((after.tidy name).sound next there).turns.holder task).mpr stays)
  · obtain ⟨next, there, same, extending⟩ := (proper.run before).beside here actor runs held
    rw [run_append]
    exact ⟨next, there, extending,
      .inr ((((after.tidy name).sound next there).turns.holder task).mpr ⟨phase, same, held⟩)⟩

/-- From the moment an attempt holds the lock to its end, nothing leaves the queue. -/
theorem extending (attempts : world.Attempt name task attempt last) (proper : world.Proper)
    (split : attempt ++ [last] = before ++ after)
    (here : (world.run before).queues.get? name = some queue)
    (holds : queue.lock.holder = some task) :
    ∃ next, (world.run (attempt ++ [last])).queues.get? name = some next ∧ queue.Extends next := by
  induction after generalizing before queue with
  | nil =>
      rw [split, List.append_nil]
      exact ⟨queue, here, .refl queue⟩
  | cons event rest ih =>
      obtain ⟨middle, there, first, stays⟩ := attempts.step_extends proper split here holds
      have onward : attempt ++ [last] = (before ++ [event]) ++ rest := by
        rw [split, List.append_assoc, List.singleton_append]
      rcases stays with gone | holds
      · cases rest with
        | nil =>
            rw [onward, List.append_nil]
            exact ⟨middle, there, first⟩
        | cons following rest =>
            have left := (((proper.run (before ++ [event])).tidy name).runs there task).mp
              (attempts.runs proper onward)
            rw [gone] at left
            exact nomatch left
      · obtain ⟨next, ends, second⟩ := ih onward there holds
        exact ⟨next, ends, first.trans second⟩

end Attempt

/-! ### Runs -/

/-- A resolved entry stays as it is along a run, or is completed. -/
theorem Proper.resolved (proper : world.Proper) (here : world.queues.get? name = some queue)
    {offset : Int} {state : AckState} (found : queue.stateOf? offset = some state)
    (settled : state ≠ .pending) (events : List Event) :
    ∃ next, (world.run events).queues.get? name = some next ∧
      (next.stateOf? offset = some state ∨ next.stateOf? offset = some .completed) := by
  refine proper.carries (fun stride carries => ?_) events here (.inl found)
  rcases carries with same | completed
  · exact stride.resolved same settled
  · exact (stride.resolved completed nofun).elim .inr .inr

/-- A flush is about to ask for the lock. Of two entries, one was rejected and one completed. -/
def beforeAttempt : List Event :=
  let message := fun offset => (default : Message).setKey .pullOffset offset
  [.openQueue (.ofNames "s" "g" "p" "b" "c" .shared), .register 0 (message "1"),
    .register 0 (message "2"), .resolve 0 1 (.retry (message "1")), .resolve 0 2 .complete,
    .begin (.flush 0 100), .proceed 0 0]

/-- The message goes back, and another one is registered and completed meanwhile. -/
def failingAttempt : List Event :=
  [.proceed 0 0, .proceed 0 0, .register 0 ((default : Message).setKey .pullOffset "3"),
    .answer 0 (.value ()), .resolve 0 3 .complete]

variable (epoch : Nat) (settings : Settings) (events : List Event)

/-- After every run the log of the returns agrees with the states of the queue. -/
theorem run_traced (here : ((initial epoch settings).run events).queues.get? name = some queue) :
    queue.Traced (account name (initial epoch settings) events)
      (returns name (initial epoch settings) events) :=
  (proper_initial epoch settings).traced events [] []
    (fun queue found => absurd found.symm (Option.some_ne_none queue)) (fun _ => ⟨rfl, rfl⟩)
      queue here

/-- Whatever happens, what was registered and resolved before is kept. -/
theorem run_keeps (here : ((initial epoch settings).run events).queues.get? name = some queue)
    (later : List Event) : ∃ next,
      ((initial epoch settings).run (events ++ later)).queues.get? name = some next ∧
        queue.Keeps next
          (ReturnLog.takenBack (returns name ((initial epoch settings).run events) later)) := by
  have proper := run_proper epoch settings events
  obtain ⟨next, there⟩ := proper.present later here
  have ends := there
  rw [← run_append] at there
  have last := run_traced epoch settings (events ++ later) there
  rw [returns_append] at last
  refine ⟨next, there, (run_traced epoch settings events here).keeps last ?_ ?_⟩
  · rw [(run_recorded epoch settings events here).tallied.admitted,
      (run_recorded epoch settings (events ++ later) there).tallied.admitted, account_append,
      Account.admitted_append]
    exact List.prefix_append _ _
  · intro offset state found settled
    obtain ⟨other, there, kept⟩ := proper.resolved here found settled later
    rw [Option.some.inj (ends.symm.trans there)]
    exact kept

/-- **Failed attempts are atomic.** Whatever else happens during an attempt that acknowledges
nothing, its own steps complete exactly the entries whose messages went back to the broker and
change neither what is queued nor the window nor the signal. Its failure leaves the lock to the next
flush, and what was registered and resolved in the meantime is kept. -/
theorem run_atomic {attempt : List Event} {last : Event}
    (attempts : ((initial epoch settings).run events).Attempt name task attempt last) :
    ((initial epoch settings).run events).Atomic name task (attempt ++ [last]) := by
  have proper := run_proper epoch settings events
  -- The queue of the flush is there at every point of the attempt.
  have present : ∀ rest, ∃ queue,
      (((initial epoch settings).run events).run rest).queues.get? name = some queue := by
    intro rest
    obtain ⟨queue, here, _⟩ := attempts.begins
    exact proper.present rest here
  refine ⟨fun before event after split actor => ?_, fun before after split => ?_, ?_⟩
  · obtain ⟨queue, here⟩ := present before
    obtain ⟨next, there, intact⟩ := attempts.own_intact proper split actor here
    exact ⟨queue, next, here, there, intact⟩
  · obtain ⟨queue, here⟩ := present before
    have whole := here
    rw [← run_append] at whole
    obtain ⟨next, there, keeps⟩ := run_keeps epoch settings (events ++ before) whole after
    rw [List.append_assoc, ← split, run_append] at there
    rw [run_append] at keeps
    refine ⟨queue, next, here, there, keeps, fun holds => ?_⟩
    obtain ⟨other, found, extending⟩ := attempts.extending proper split here holds
    rw [Option.some.inj (there.symm.trans found)]
    exact extending
  · obtain ⟨queue, here⟩ := present attempt
    have turns := (((proper.run attempt).tidy name).sound queue here).turns
    refine ⟨attempt, last, queue, (queue.closeFlush task).1, rfl, here, ?_,
      turns.closeFlush_passesLock task⟩
    rw [run_append]
    exact attempts.fails.closes (proper.run attempt) here

/-- The acknowledgment is refused. The message stays returned, and everything is queued still. -/
theorem run_atomic_failingAttempt :
    let world := (initial 0 .standard).run beforeAttempt
    let last : Event := .answer 0 (.failed (.transport "gone"))
    world.Attempt 0 0 failingAttempt last ∧ world.Atomic 0 0 (failingAttempt ++ [last]) ∧
      ∃ queue, (world.run (failingAttempt ++ [last])).queues.get? 0 = some queue ∧
        queue.queued = [⟨1, .completed⟩, ⟨2, .completed⟩, ⟨3, .completed⟩] ∧
        queue.window = ⟨-1, 3⟩ ∧ queue.lock = .free := by
  have attempts : ((initial 0 .standard).run beforeAttempt).Attempt 0 0 failingAttempt
      (.answer 0 (.failed (.transport "gone"))) := by
    refine ⟨⟨_, rfl, rfl⟩, fun before after split => ?_, .answer rfl (.acking rfl _)⟩
    rcases before with _ | ⟨_, _ | ⟨_, _ | ⟨_, _ | ⟨_, _ | ⟨_, _ | _⟩⟩⟩⟩⟩ <;> cases split
    -- The one answer comes to the return of the message.
    have waits : (((initial 0 .standard).run beforeAttempt).run
      (failingAttempt.take 3)).awaited? 0 = some .sendBack := rfl
    exact fun awaits => nomatch waits.symm.trans awaits
  exact ⟨attempts, run_atomic 0 .standard beforeAttempt attempts, _, rfl, rfl, rfl, rfl⟩

end PullConsumer.World
