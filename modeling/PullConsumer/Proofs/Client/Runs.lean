import PullConsumer.Proofs.Client.Advances

/-! # Runs of a client

Along every run of a client, whatever the order of its events, the state of each queue and its
account agree (`World.run_recorded`).
-/

namespace PullConsumer.World

variable {world : World} {name : QueueId} {queue next : AckQueue}

/-- New names are unused, and every queue and its tasks are in order. -/
structure Proper (world : World) : Prop where
  numbered : world.Numbered
  tidy : ∀ name, world.Tidy name

/-- A client at its start has neither queues nor tasks. -/
theorem proper_initial (epoch : Nat) (settings : Settings) : (initial epoch settings).Proper where
  numbered := ⟨fun _ _ => rfl, fun _ _ => rfl⟩
  tidy name := by
    have absent : (initial epoch settings).queues.get? name = none := rfl
    refine ⟨fun queue here => ?_, fun task => ?_, fun queue task here => ?_⟩
    · exact absurd (here.symm.trans absent) (Option.some_ne_none queue)
    · constructor
      · exact fun runs => absurd runs.symm (Option.some_ne_none name)
      · rintro ⟨queue, here, _⟩
        exact absurd (here.symm.trans absent) (Option.some_ne_none queue)
    · exact absurd (here.symm.trans absent) (Option.some_ne_none queue)

/-- An event keeps a client proper. -/
theorem Proper.step (proper : world.Proper) (event : Event) : (world.step event).1.Proper := by
  refine step_cases Proper proper fun changes transition => ?_
  have numbered := transition.numbered proper.numbered
  refine ⟨numbered, fun name => ?_⟩
  cases transition.advance proper.numbered proper.tidy name with
  | alone leaves => exact (proper.tidy name).left_alone proper.numbered leaves
  | moves _ moved => exact moved.tidy
  | makes _ _ _ _ tidy => exact tidy

/-- A run keeps a client proper. -/
theorem Proper.run (proper : world.Proper) (events : List Event) : (world.run events).Proper := by
  induction events generalizing world with
  | nil => exact proper
  | cons event rest ih => exact ih (proper.step event)

/-- An event moves every queue that is there, by changes that bring the event about. -/
theorem Proper.moved (proper : world.Proper) (event : Event)
    (here : world.queues.get? name = some queue) :
    ∃ changes told next, (world.step event).1 = world.after changes ∧
      Moved world name queue event changes told next := by
  by_cases moves : ∃ changes, Transition world event changes
  · obtain ⟨changes, transition⟩ := moves
    refine ⟨changes, ?_⟩
    cases transition.advance proper.numbered proper.tidy name with
    | alone leaves silent unhanded =>
        exact ⟨_, _, transition.step,
          .of_alone proper.numbered (proper.tidy name) here leaves silent unhanded⟩
    | moves present moved =>
        cases here.symm.trans present
        exact ⟨_, _, transition.step, moved⟩
    | makes _ absent => exact absurd (here.symm.trans absent) (Option.some_ne_none queue)
  · have blocked := not_exists.mp moves
    have still := (world.decided event).resolve_left fun moves => moves.elim blocked
    exact ⟨[], [], queue, still, .of_alone proper.numbered (proper.tidy name) here
      (List.forall_mem_nil _) rfl (offers_of_blocked blocked name)⟩

/-- The lines of an event are those of its intake, followed by those of the step of the queue. -/
theorem Moved.lines {event : Event} {changes : List Change} {told : Account}
    (moved : Moved world name queue event changes told next)
    (same : (world.step event).1 = world.after changes) :
    world.lines name event = world.offers name (world.handed name event) ++ told := by
  rw [World.lines, same, (world.tells_after changes).ofEffects_since, moved.tells]

/-- An event takes every queue that is there through one of the steps of a queue. -/
theorem Proper.queueStep (proper : world.Proper) (event : Event)
    (here : world.queues.get? name = some queue) :
    ∃ told next, (world.step event).1.queues.get? name = some next ∧
      world.lines name event = world.offers name (world.handed name event) ++ told ∧
      QueueStep world name queue event (world.step event).1 told next := by
  obtain ⟨changes, told, next, same, moved⟩ := proper.moved event here
  refine ⟨told, next, ?_, moved.lines same, ?_⟩
  · rw [same]
    exact moved.there
  · rw [same]
    exact moved.step

/-- An event takes the schedule of every queue that is there through one of its steps. -/
theorem Proper.scheduleStep (proper : world.Proper) (event : Event)
    (here : world.queues.get? name = some queue) :
    ∃ next, (world.step event).1.queues.get? name = some next ∧
      ScheduleStep world name queue event (world.step event).1 next := by
  obtain ⟨changes, told, next, same, moved⟩ := proper.moved event here
  rw [same]
  exact ⟨next, moved.there, moved.schedule⟩

/-- The lines of an event are those of the stride that it takes the queue through. -/
theorem Proper.stride (proper : world.Proper) (event : Event)
    (here : world.queues.get? name = some queue) :
    ∃ next, (world.step event).1.queues.get? name = some next ∧
      queue.Stride (world.lines name event) next := by
  obtain ⟨changes, told, next, same, moved⟩ := proper.moved event here
  rw [moved.lines same, same]
  exact ⟨next, moved.there, moved.stride⟩

/-- A step of a flush leaves its queue behind, and its lines in the account of the queue. -/
theorem Proper.adopts {task : TaskId} {event : Event} {step : FlushStep} (proper : world.Proper)
    (here : world.queues.get? name = some queue) (owns : world.flushOf? task = some name)
    (follows : step.Follows queue task) (acts : event.actor? = some task)
    (silent : world.handed name event = [])
    (adopts : (world.step event).1 = world.adopt task name step) :
    (world.step event).1.queues.get? name = some step.queue ∧
      world.lines name event = .ofEffects step.effects := by
  obtain ⟨own, present, runs⟩ := Option.bind_eq_some_iff.mp owns
  have moved : Moved world name queue event (adopting task name own.isFinal step)
      (.ofEffects step.effects) step.queue :=
    .follows proper.numbered (proper.tidy name) here present runs follows acts silent
  have same : (world.step event).1 = world.after (adopting task name own.isFinal step) :=
    adopts.trans (adopting_eq present runs step).symm
  rw [moved.lines same, offers_of_unhanded silent, same]
  exact ⟨moved.there, rfl⟩

/-- A queue that an event makes is a fresh one for the assignment of the event, and has no schedule
yet or one that is run by a task. -/
theorem Proper.made (proper : world.Proper) (event : Event)
    (absent : world.queues.get? name = none)
    (there : (world.step event).1.queues.get? name = some next) :
    (∃ assignment, event.opens? = some assignment ∧
        AckQueue.Made assignment world.live.current next) ∧
      (next.schedule = .absent ∨ ∃ loop, next.loop = some loop ∧
        (world.step event).1.tasks.get? loop = some (.schedule name)) := by
  rcases world.decided event with ⟨changes, transition⟩ | same
  · rw [transition.step] at there ⊢
    cases transition.advance proper.numbered proper.tidy name with
    | alone leaves =>
        rw [queue_kept fun change member => (leaves change member).1, absent] at there
        cases there
    | moves here => exact absurd (here.symm.trans absent) (Option.some_ne_none _)
    | makes opens _ made found _ led =>
        cases there.symm.trans found
        exact ⟨⟨_, opens, made⟩, led⟩
  · rw [same, absent] at there
    cases there

/-- Only a task that takes a step tells of flushes, and only if it is not one that gets messages. -/
theorem Transition.silent {event : Event} {changes : List Change}
    (transition : Transition world event changes)
    (aside : event.actor? = none ∨ event.takesIn = true) :
    Account.ofEffects (Change.effectsOf changes) = [] := by
  cases transition with
  | handles present handling | responds own present handling =>
      cases handling <;> simp [Change.effect?, Mark.ofEffect?]
  | relinquishes draw own present idle =>
      rcases idle with ⟨_, _, rfl⟩ | ⟨_, _, rfl⟩ <;> simp [Change.effect?]
  | flushes | pulls | concludes | refreshes | answersFlush | answersRelease | answersRefresh =>
      rcases aside with idle | takes
      · cases idle
      · cases takes
  | _ => simp [Change.effect?, Mark.ofEffect?]

/-- The lines of an event that lets no flush go on are those of what it hands to the queue. -/
theorem lines_of_aside {event : Event} (name : QueueId)
    (aside : event.actor? = none ∨ event.takesIn = true) :
    world.lines name event = world.offers name (world.handed name event) := by
  have told : Account.ofEffects ((world.step event).1.since world) = [] := by
    rcases world.decided event with ⟨changes, transition⟩ | same
    · rw [transition.tells.ofEffects_since, transition.silent aside]
    · rw [same]
      exact (Tells.of_eq rfl).ofEffects_since
  rw [lines, told]
  exact List.append_nil _

/-- The application resolves an entry. -/
theorem resolve_queue (here : world.queues.get? name = some queue) (offset : Int)
    (verdict : Verdict) : (world.resolve name offset verdict).queues.get? name =
      some (queue.resolve offset verdict).1 := by
  simp only [resolve, onQueue, here, frame_emitAll]
  exact (Table.get?_set ..).trans (if_pos rfl)

/-- A queue that is not there has no lines. -/
theorem Proper.lines_of_absent (proper : world.Proper) (event : Event)
    (absent : world.queues.get? name = none) : world.lines name event = [] := by
  have none : ∀ account, world.linesOf name account = [] := by
    intro account
    refine List.filter_eq_nil_iff.mpr fun mark _ own => ?_
    rw [beq_iff_eq, Option.bind_eq_some_iff] at own
    obtain ⟨task, _, runs⟩ := own
    obtain ⟨queue, here, _⟩ := ((proper.tidy name).flushes task).mp runs
    exact Option.some_ne_none queue (here.symm.trans absent)
  rw [lines, none, List.append_nil]
  simp only [offers, absent]

theorem run_append (world : World) (first second : List Event) :
    world.run (first ++ second) = (world.run first).run second :=
  List.foldl_append

theorem account_append (name : QueueId) (world : World) (first second : List Event) :
    account name world (first ++ second) =
      account name world first ++ account name (world.run first) second := by
  induction first generalizing world with
  | nil => rfl
  | cons event rest ih =>
      rw [List.cons_append, account, account, ih, List.append_assoc]
      rfl

/-- What holds of every fresh queue and is kept by every stride holds of the queues of a run. -/
theorem Proper.invariant (proper : world.Proper) {Holds : AckQueue → Prop}
    (fresh : ∀ assignment settings, Holds (.ofAssignment assignment settings))
    (kept : ∀ {queue account next}, AckQueue.Stride queue account next → Holds queue → Holds next)
    (events : List Event) (start : ∀ queue, world.queues.get? name = some queue → Holds queue) :
    ∀ queue, (world.run events).queues.get? name = some queue → Holds queue := by
  induction events generalizing world with
  | nil => exact start
  | cons event rest ih =>
      refine ih (proper.step event) fun next there => ?_
      cases here : world.queues.get? name with
      | none =>
          obtain ⟨⟨assignment, _, made⟩, _⟩ := proper.made event here there
          exact kept made.stride (fresh assignment world.live.current)
      | some queue =>
          obtain ⟨after, found, stride⟩ := proper.stride event here
          rw [← Option.some.inj (found.symm.trans there)]
          exact kept stride (start queue here)

/-- A queue that is there stays there, and what every stride hands on reaches the end of a run. -/
theorem Proper.carries (proper : world.Proper) {Carries : AckQueue → Prop}
    (kept : ∀ {queue account next}, AckQueue.Stride queue account next → Carries queue →
      Carries next) (events : List Event) (here : world.queues.get? name = some queue)
    (start : Carries queue) :
    ∃ next, (world.run events).queues.get? name = some next ∧ Carries next := by
  induction events generalizing world queue with
  | nil => exact ⟨queue, here, start⟩
  | cons event rest ih =>
      obtain ⟨after, found, stride⟩ := proper.stride event here
      exact ih (proper.step event) found (kept stride start)

/-- A queue is never lost. -/
theorem Proper.present (proper : world.Proper) (events : List Event)
    (here : world.queues.get? name = some queue) :
    ∃ next, (world.run events).queues.get? name = some next := by
  obtain ⟨next, there, _⟩ : ∃ next, (world.run events).queues.get? name = some next ∧ True :=
    proper.carries (fun _ => id) events here trivial
  exact ⟨next, there⟩

/-- From a state that agrees with the account so far, a run keeps the agreement. -/
theorem Proper.recorded (proper : world.Proper) (account : Account) (events : List Event)
    (agrees : ∀ queue, world.queues.get? name = some queue → queue.Recorded account)
    (empty : world.queues.get? name = none → account = []) :
    (∀ queue, (world.run events).queues.get? name = some queue →
        queue.Recorded (account ++ World.account name world events)) ∧
      ((world.run events).queues.get? name = none →
        account ++ World.account name world events = []) := by
  induction events generalizing world account with
  | nil =>
      rw [World.account, List.append_nil]
      exact ⟨agrees, empty⟩
  | cons event rest ih =>
      rw [World.account, ← List.append_assoc]
      refine ih (proper.step event) (account ++ world.lines name event) ?_ ?_
      · intro next there
        cases here : world.queues.get? name with
        | none =>
            obtain ⟨⟨assignment, _, made⟩, _⟩ := proper.made event here there
            rw [empty here, proper.lines_of_absent event here]
            exact (AckQueue.Recorded.ofAssignment assignment _).stride made.stride
        | some queue =>
            obtain ⟨after, found, stride⟩ := proper.stride event here
            rw [← Option.some.inj (found.symm.trans there)]
            exact (agrees queue here).stride stride
      · intro gone
        cases here : world.queues.get? name with
        | none => rw [empty here, proper.lines_of_absent event here, List.append_nil]
        | some queue =>
            obtain ⟨after, found, _⟩ := proper.stride event here
            exact absurd (found.symm.trans gone) (Option.some_ne_none after)

/-- A queue was there from the start, or it was made for the assignment of the event that made
it. -/
theorem Proper.opened (proper : world.Proper) (events : List Event)
    (there : (world.run events).queues.get? name = some next) :
    (∃ queue, world.queues.get? name = some queue ∧ queue.assignment = next.assignment) ∨
      ∃ before event after, events = before ++ event :: after ∧
        (world.run before).queues.get? name = none ∧ event.opens? = some next.assignment := by
  induction events generalizing world with
  | nil => exact .inl ⟨next, there, rfl⟩
  | cons event rest ih =>
      rcases ih (proper.step event) there with
        ⟨middle, found, same⟩ | ⟨before, opening, after, rfl, absent, opens⟩
      · cases here : world.queues.get? name with
        | none =>
            obtain ⟨⟨assignment, opens, made⟩, _⟩ := proper.made event here found
            have own : middle.assignment = assignment := made.stride.assignment
            rw [← own, same] at opens
            exact .inr ⟨[], event, rest, rfl, here, opens⟩
        | some queue =>
            obtain ⟨other, present, stride⟩ := proper.stride event here
            cases found.symm.trans present
            exact .inl ⟨queue, rfl, stride.assignment.symm.trans same⟩
      · exact .inr ⟨event :: before, opening, after, rfl, absent, opens⟩

variable (epoch : Nat) (settings : Settings) (events : List Event)

/-- **Runs.** After every run of a client, the state of each queue and its account agree. -/
theorem run_recorded (here : ((initial epoch settings).run events).queues.get? name = some queue) :
    queue.Recorded (account name (initial epoch settings) events) :=
  ((proper_initial epoch settings).recorded [] events
    (fun queue found => absurd found.symm (Option.some_ne_none queue)) fun _ => rfl).1 queue here

/-- The account of a queue that was never made is empty. -/
theorem run_account_of_absent
    (gone : ((initial epoch settings).run events).queues.get? name = none) :
    account name (initial epoch settings) events = [] :=
  ((proper_initial epoch settings).recorded [] events
    (fun queue found => absurd found.symm (Option.some_ne_none queue)) fun _ => rfl).2 gone

/-- Every queue of a run was made by one of its events, for the assignment of this event. -/
theorem run_opened (here : ((initial epoch settings).run events).queues.get? name = some queue) :
    ∃ before event after, events = before ++ event :: after ∧
      ((initial epoch settings).run before).queues.get? name = none ∧
        event.opens? = some queue.assignment :=
  ((proper_initial epoch settings).opened events here).resolve_left fun ⟨_, early, _⟩ =>
    absurd early.symm (Option.some_ne_none _)

/-- Every run leads to a proper client. -/
theorem run_proper : ((initial epoch settings).run events).Proper :=
  (proper_initial epoch settings).run events

/-- The schedule of a closed queue stays stopped along every run. -/
theorem run_shut (here : ((initial epoch settings).run events).queues.get? name = some queue) :
    queue.Shut :=
  (proper_initial epoch settings).invariant AckQueue.shut_ofAssignment
    (fun stride shut => shut.stride stride) events
    (fun queue found => absurd found.symm (Option.some_ne_none queue)) queue here

end PullConsumer.World
