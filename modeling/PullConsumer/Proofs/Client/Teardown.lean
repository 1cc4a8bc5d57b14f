import PullConsumer.Proofs.Client.Runs

/-! # After a teardown

A teardown closes the queue and stops its schedule, but a flush that the schedule has launched is a
task of its own and goes on. As long as nobody asks for another flush, the teardown is final exactly
if nothing is queued or no such flush is left (`World.run_final`).
-/

namespace PullConsumer.World

/-- Whether a task is a flush of a queue that somebody has asked for, or is about to begin one. A
teardown that has not begun is none: it does nothing on a closed queue. -/
def Asks (world : World) (name : QueueId) : Task → Prop
  | .drain queue _ final deadline _ => queue = name ∧ (final = true → deadline.isSome = true)
  | .handBack entry .offline .begun => (world.entries.get? entry).bind PullEntry.queue = some name
  | _ => False

/-- Whether somebody asks for a flush of a queue by this event. -/
def Demands (world : World) (name : QueueId) : Event → Prop
  | .begin procedure => world.Asks name procedure.task
  | _ => False

/-- Along these events nobody asks for a flush of the queue. -/
def Undisturbed (name : QueueId) : World → List Event → Prop
  | _, [] => True
  | world, event :: rest =>
    ¬ world.Demands name event ∧ Undisturbed name (world.step event).1 rest

/-- A queue is closed, and neither its teardown nor another flush that somebody has asked for is
still in progress. -/
structure TornDown (world : World) (name : QueueId) : Prop where
  closed : ∃ queue, world.queues.get? name = some queue ∧ queue.destroyed = true
  unasked : ∀ task own, world.tasks.get? task = some own → ¬ world.Asks name own

/-- What is queued, by offset, and the window. -/
def holding (world : World) (name : QueueId) : Option (List Int × AckWindow) :=
  (world.queues.get? name).map fun queue => (queue.queued.map AckEntry.offset, queue.window)

/-- Whatever happens from here on, unless somebody asks for a flush, no flush of the queue calls the
broker, and what is queued and the window stay as they are. -/
def Final (world : World) (name : QueueId) : Prop :=
  ∀ later, Undisturbed name world later →
    (∀ task call, Mark.called task call ∉ account name world later) ∧
      (world.run later).holding name = world.holding name

variable {world : World} {name : QueueId} {queue : AckQueue} {task : TaskId} {event : Event}

/-! ### Steps after a teardown -/

/-- Whether a change asks for no flush of a queue. -/
@[simp] def Unasking (world : World) (name : QueueId) : Change → Prop
  | .setTask _ own | .spawn own => ¬ world.Asks name own
  | _ => True

/-- Whether a change lets every pull entry go on to serve the queue that it serves. -/
@[simp] def KeepsServing (world : World) : Change → Prop
  | .setEntry name entry => ∃ old, world.entries.get? name = some old ∧ old.queue = entry.queue
  | .makeEntry entry => ∀ queue, entry.queue = some queue → world.nextQueue ≤ queue
  | _ => True

/-- Whether a change launches no flush from the schedule of a queue. -/
@[simp] def Unlaunching (name : QueueId) : Change → Prop
  | .setTask _ own | .spawn own => ∀ parent, own ≠ .scheduledFlush name parent
  | _ => True

/-- A transition leaves the queue of every entry in service. -/
theorem Transition.keepsServing {changes : List Change}
    (transition : Transition world event changes) :
    ∀ change ∈ changes, world.KeepsServing change := by
  cases transition with
  | handles present handling | responds own present handling => cases handling <;> simp
  | relinquishes draw own present idle =>
      rcases idle with ⟨_, _, rfl⟩ | ⟨_, _, rfl⟩ <;> simp [present]
  | concludes draw own filed present => simp [present]
  | handsBack draw own present => simp [present]
  | _ => simp

/-- Who asks for a flush after an event would have asked for it before. -/
theorem Asks.before {changes : List Change} {own : Task}
    (asks : (world.after changes).Asks name own) (old : name < world.nextQueue)
    (keeps : ∀ change ∈ changes, world.KeepsServing change) : world.Asks name own := by
  cases own with
  | schedule | scheduledFlush | pull | refresh => exact asks.elim
  | drain => exact asks
  | handBack target kind stage =>
      cases kind with
      | destroy => exact asks.elim
      | offline =>
          cases stage with
          | draining | releasing => exact asks.elim
          | begun =>
              obtain ⟨entry, there, serves⟩ := Option.bind_eq_some_iff.mp asks
              rcases entry_found there with before | set | ⟨_, made⟩
              · exact Option.bind_eq_some_iff.mpr ⟨entry, before, serves⟩
              · obtain ⟨earlier, before, same⟩ := keeps _ set
                exact Option.bind_eq_some_iff.mpr ⟨earlier, before, same.trans serves⟩
              · exact absurd old (Nat.not_lt.mpr (keeps _ made name serves))

/-- No event asks for a flush of a queue that is torn down, unless it begins a procedure that
does. -/
theorem TornDown.unasking {changes : List Change} (torn : world.TornDown name)
    (quiet : ¬ world.Demands name event) (transition : Transition world event changes) :
    ∀ change ∈ changes, world.Unasking name change := by
  obtain ⟨torndown, place, destroyed⟩ := torn.closed
  cases transition with
  | begins procedure => exact forall_cons.mpr ⟨quiet, List.forall_mem_nil _⟩
  | handles present handling | responds own present handling => cases handling <;> simp [Asks]
  | relinquishes draw own present idle =>
      rcases idle with ⟨_, _, rfl⟩ | ⟨_, _, rfl⟩ <;> simp
  | closes draw own here alive marked =>
      -- A queue that is torn down is closed, and not closed again.
      simp only [forall_append, forall_halting, forall_cons, Unasking, Asks]
      refine ⟨fun _ _ => trivial, trivial, fun asks => ?_, List.forall_mem_nil _⟩
      cases asks.1
      cases place.symm.trans here
      exact Bool.false_ne_true (alive.symm.trans destroyed)
  | drains draw own here =>
      simp only [forall_cons, Unasking, Asks]
      refine ⟨trivial, fun asks => torn.unasked _ _ own ⟨asks.1, fun final => ?_⟩,
        List.forall_mem_nil _⟩
      exact absurd final Bool.false_ne_true
  | @handsBack task entryName entry kind served draw own present first serves =>
      simp only [forall_append, forall_marking, forall_cons, Unasking]
      refine ⟨fun _ => trivial, fun asks => ?_, ?_, List.forall_mem_nil _⟩
      · cases kind with
        | destroy => exact Bool.false_ne_true (asks.2 rfl)
        | offline =>
            refine torn.unasked task _ own ?_
            rw [Asks, present, Option.bind_some, serves, asks.1]
      · cases kind <;> exact id
  | @concludes task name entry kind drain result draw own filed present =>
      cases kind <;> simp [Asks]
  | _ => simp [Asks]

/-- A queue that is torn down stays so while nobody asks for a flush. -/
theorem TornDown.step (torn : world.TornDown name) (proper : world.Proper)
    (quiet : ¬ world.Demands name event) :
    (world.step event).1.TornDown name := by
  obtain ⟨queue, here, destroyed⟩ := torn.closed
  obtain ⟨next, there, stride⟩ := proper.stride event here
  refine ⟨⟨next, there, stride.destroyed destroyed⟩, ?_⟩
  refine step_cases (fun after => ∀ task own, after.tasks.get? task = some own →
    ¬ after.Asks name own) torn.unasked fun changes transition task own found asks => ?_
  have earlier := asks.before (proper.numbered.lt_nextQueue here) transition.keepsServing
  rcases task_found found with old | goes | ⟨_, new⟩
  · exact torn.unasked task own old earlier
  · exact torn.unasking quiet transition _ goes earlier
  · exact torn.unasking quiet transition _ new earlier

/-- A closed queue whose schedule is over launches no flush from it. -/
theorem Transition.unlaunching {changes : List Change}
    (transition : Transition world event changes) (here : world.queues.get? name = some queue)
    (idle : queue.scheduleDue? = none) : ∀ change ∈ changes, Unlaunching name change := by
  have stopped : ∀ {target loop} {other : AckQueue}, world.queues.get? target = some other →
      other.scheduleDue?.isSome = true →
        Unlaunching name (.spawn (.scheduledFlush target loop)) := by
    rintro target loop other there waits parent ⟨⟩
    rw [← Option.some.inj (here.symm.trans there), idle] at waits
    cases waits
  cases transition with
  | hears draw own there idle notified =>
      exact forall_cons.mpr ⟨stopped there (by rw [AckQueue.scheduleDue?, idle]; rfl), by simp⟩
  | elapses own there idle late =>
      exact forall_cons.mpr ⟨stopped there (by rw [AckQueue.scheduleDue?, idle]; rfl), by simp⟩
  | retries own there waiting late =>
      exact forall_cons.mpr ⟨stopped there (by rw [AckQueue.scheduleDue?, waiting]; rfl), by simp⟩
  | begins procedure => cases procedure <;> simp [Procedure.task]
  | handles present handling | responds own present handling => cases handling <;> simp
  | relinquishes draw own present idle =>
      rcases idle with ⟨_, _, rfl⟩ | ⟨_, _, rfl⟩ <;> simp
  | _ => simp

/-- No flush is launched by the schedule of a closed queue. -/
theorem TornDown.unscheduled (torn : world.TornDown name)
    (shut : ∀ queue, world.queues.get? name = some queue → queue.Shut)
    (unlaunched : ∀ task parent, world.tasks.get? task ≠ some (.scheduledFlush name parent)) :
    ∀ task parent, (world.step event).1.tasks.get? task ≠ some (.scheduledFlush name parent) := by
  obtain ⟨queue, here, destroyed⟩ := torn.closed
  have idle := (shut queue here).scheduleDue? destroyed
  refine step_cases (fun after => ∀ task parent,
    after.tasks.get? task ≠ some (.scheduledFlush name parent)) unlaunched
    fun changes transition task parent there => ?_
  rcases task_found there with old | goes | ⟨_, new⟩
  · exact unlaunched task parent old
  · exact transition.unlaunching here idle _ goes parent rfl
  · exact transition.unlaunching here idle _ new parent rfl

/-! ### When a teardown is final -/

/-- A queue that is torn down and is empty or has no flush left. -/
structure TornDownSpent (world : World) (name : QueueId) : Prop where
  proper : world.Proper
  torn : world.TornDown name
  shut : ∀ queue, world.queues.get? name = some queue → queue.Shut
  ended : (∀ queue, world.queues.get? name = some queue → queue.queued = []) ∨
    ∀ task parent, world.tasks.get? task ≠ some (.scheduledFlush name parent)

/-- The flushes of a queue that is torn down are those of its schedule. -/
theorem TornDown.flushes (torn : world.TornDown name) (tidy : world.Tidy name)
    (here : world.queues.get? name = some queue)
    (unlaunched : ∀ task parent, world.tasks.get? task ≠ some (.scheduledFlush name parent))
    (task : TaskId) : queue.flushes.get? task = none := by
  refine tidy.absent here fun owns => ?_
  obtain ⟨own, present, runs⟩ := Option.bind_eq_some_iff.mp owns
  cases own with
  | scheduledFlush target parent =>
      cases runs
      exact unlaunched task parent present
  | drain target timeout final deadline parent =>
      cases deadline with
      | none => exact nomatch runs
      | some deadline =>
          cases runs
          exact torn.unasked task _ present ⟨rfl, fun _ => rfl⟩
  | schedule | pull | handBack | refresh => exact nomatch runs

namespace TornDownSpent

/-- The queue of an entry that is torn down and has no flush left is spent. -/
theorem spent (spent : world.TornDownSpent name) (here : world.queues.get? name = some queue) :
    queue.Spent := by
  obtain ⟨other, there, destroyed⟩ := spent.torn.closed
  rw [← Option.some.inj (here.symm.trans there)] at destroyed
  refine ⟨destroyed, (spent.proper.tidy name).sound queue here, ?_⟩
  rcases spent.ended with empty | unlaunched
  · exact .inl (empty queue here)
  · exact .inr (spent.torn.flushes (spent.proper.tidy name) here unlaunched)

/-- While nobody asks for a flush, a spent queue stays so and rests. -/
theorem step (spent : world.TornDownSpent name)
    (quiet : ¬ world.Demands name event) :
    (world.step event).1.TornDownSpent name ∧
      (∀ task call, Mark.called task call ∉ world.lines name event) ∧
      (world.step event).1.holding name = world.holding name := by
  have torn := spent.torn.step spent.proper quiet
  obtain ⟨queue, here, _⟩ := spent.torn.closed
  obtain ⟨next, there, stride⟩ := spent.proper.stride event here
  have rests := (spent.spent here).stride stride
  refine ⟨⟨spent.proper.step event, torn, fun other found => ?_, ?_⟩, rests.calls, ?_⟩
  · rw [← Option.some.inj (there.symm.trans found)]
    exact (spent.shut queue here).stride stride
  · rcases spent.ended with empty | unlaunched
    · refine .inl fun other found => ?_
      have offsets := rests.queued
      rw [empty queue here, List.map_nil, List.map_eq_nil_iff] at offsets
      rw [← Option.some.inj (there.symm.trans found), offsets]
    · exact .inr (spent.torn.unscheduled spent.shut unlaunched)
  · simp only [holding, here, there, Option.map_some, rests.queued, rests.window]

/-- **A teardown that leaves nothing behind is final.** -/
theorem final (spent : world.TornDownSpent name) : world.Final name := by
  intro later
  induction later generalizing world with
  | nil => exact fun _ => ⟨fun _ _ => List.not_mem_nil, rfl⟩
  | cons event rest ih =>
      rintro ⟨quiet, undisturbed⟩
      obtain ⟨next, calls, held⟩ := spent.step quiet
      obtain ⟨silent, same⟩ := ih next undisturbed
      refine ⟨fun task call member => ?_, same.trans held⟩
      rcases List.mem_append.mp member with now | after
      · exact calls task call now
      · exact silent task call after

end TornDownSpent

/-! ### What a flush that is left does -/

/-- What is final stays final while nobody asks for a flush. -/
theorem Final.step (final : world.Final name)
    (quiet : ¬ world.Demands name event) :
    (world.step event).1.Final name := by
  intro later undisturbed
  obtain ⟨silent, held⟩ := final (event :: later) ⟨quiet, undisturbed⟩
  have now := (final [event] ⟨quiet, trivial⟩).2
  exact ⟨fun task call member => silent task call (List.mem_append_right _ member),
    held.trans now.symm⟩

/-- Nothing is final while a flush holds the lock and something is ready to be sent. -/
theorem not_final_of_holder (proper : world.Proper) (here : world.queues.get? name = some queue)
    (holds : queue.lock.holder = some task) (ready : queue.readyOffsets ≠ []) :
    ¬ world.Final name := by
  intro final
  have sound := (proper.tidy name).sound queue here
  have owns : world.flushOf? task = some name := by
    obtain ⟨phase, runs, _⟩ := (sound.turns.holder task).mp holds
    exact (proper.tidy name).owns here runs
  obtain ⟨proceeds, answers⟩ := step_of_flushOf? here owns 0 (.value ())
  obtain ⟨_, own⟩ := proper.adopts here owns (sound.turns.proceedFlush_follows task)
    rfl rfl proceeds
  obtain ⟨there, answered⟩ :=
    proper.adopts here owns (sound.turns.answerFlush_follows task (.value ())) rfl rfl answers
  rcases sound.transmits holds ready with ⟨call, member⟩ | ⟨call, member⟩ | settles
  · refine (final [.proceed task 0] ⟨id, trivial⟩).1 task call ?_
    rw [account, own, account, List.append_nil]
    exact member
  · refine (final [.answer task (.value ())] ⟨id, trivial⟩).1 task call ?_
    rw [account, answered, account, List.append_nil]
    exact member
  · have held := (final [.answer task (.value ())] ⟨id, trivial⟩).2
    have next : world.run [.answer task (.value ())] =
        (world.step (.answer task (.value ()))).1 := rfl
    rw [next, holding, holding, there, here, Option.map_some, Option.map_some] at held
    exact settles (congrArg Prod.fst (Option.some.inj held))

/-- A flush of the schedule that is left may call the broker once the first entry is resolved, if
something is queued. -/
theorem not_final (proper : world.Proper) (here : world.queues.get? name = some queue)
    (nonempty : queue.queued ≠ []) {parent : TaskId}
    (left : world.tasks.get? task = some (.scheduledFlush name parent)) : ¬ world.Final name := by
  intro final
  have sound := (proper.tidy name).sound queue here
  obtain ⟨first, rest, queued⟩ := List.exists_cons_of_ne_nil nonempty
  have ready := sound.ordered.readyOffsets_resolve queued
  obtain ⟨_, _, _, resolved, _⟩ := queue.resolve_rest first.offset .complete
  -- The application resolves the first entry.
  have middle := proper.step (.resolve name first.offset .complete)
  have still : (world.step (.resolve name first.offset .complete)).1.Final name := final.step id
  have place : (world.step (.resolve name first.offset .complete)).1.queues.get? name =
      some (queue.resolve first.offset .complete).1 := by
    simp only [World.step, resolve, onQueue, here, frame_emitAll]
    exact (Table.get?_set ..).trans (if_pos rfl)
  cases lock : queue.lock.holder with
  | some holder =>
      have holds : (queue.resolve first.offset .complete).1.lock.holder = some holder := by
        rw [resolved]
        exact lock
      exact not_final_of_holder middle place holds ready still
  | none =>
      -- The flush takes the free lock first.
      have own : world.flushOf? task = some name := flushOf?_of_get? left
      obtain ⟨phase, runs⟩ :=
        Option.isSome_iff_exists.mp (((proper.tidy name).runs here task).mp own)
      have fresh : (queue.resolve first.offset .complete).1.flushes.get? task = some .fresh := by
        rw [resolved, ← sound.turns.fresh_of_free lock runs]
        exact runs
      have free : (queue.resolve first.offset .complete).1.lock.holder = none := by
        rw [resolved]
        exact lock
      have owns : (world.step (.resolve name first.offset .complete)).1.flushOf? task =
          some name := by
        refine ((middle.tidy name).runs place task).mpr ?_
        rw [fresh]
        rfl
      have turns := ((middle.tidy name).sound _ place).turns
      obtain ⟨proceeds, _⟩ := step_of_flushOf? place owns 0 (.value ())
      obtain ⟨there, _⟩ :=
        middle.adopts place owns (turns.proceedFlush_follows task) rfl rfl proceeds
      obtain ⟨_, _, requested⟩ := AckQueue.requestLock_rest fresh
      refine not_final_of_holder (middle.step (.proceed task 0)) there
        (AckQueue.holder_proceedFlush fresh free) ?_ (still.step id)
      rw [requested]
      exact ready

/-! ### Runs -/

variable (epoch : Nat) (settings : Settings) (events : List Event)

/-- **Teardowns.** After every run, a teardown is final for the broker if and only if nothing was
queued any more or no flush of the schedule was left. -/
theorem run_final (torn : ((initial epoch settings).run events).TornDown name) :
    ((initial epoch settings).run events).Final name ↔
      (∀ queue, ((initial epoch settings).run events).queues.get? name = some queue →
        queue.queued = []) ∨
      ∀ task parent, ((initial epoch settings).run events).tasks.get? task ≠
        some (.scheduledFlush name parent) := by
  have proper := run_proper epoch settings events
  constructor
  · intro final
    obtain ⟨queue, here, _⟩ := torn.closed
    by_cases empty : queue.queued = []
    · left
      intro other found
      rw [← Option.some.inj (here.symm.trans found)]
      exact empty
    · right
      intro task parent left
      exact not_final proper here empty left final
  · intro ended
    exact TornDownSpent.final ⟨proper, torn, fun queue here => run_shut epoch settings events here,
      ended⟩

/-- A flush of the schedule returns a message to the broker when the teardown comes. The teardown
waits for it in vain. -/
def outlived : List Event :=
  let message := (default : Message).setKey .pullOffset "1"
  [.openQueue (.ofNames "s" "g" "p" "b" "c" .shared), .startQueue 0, .register 0 message,
    .resolve 0 1 (.retry message), .proceed 0 0, .tick 1000, .expire 0, .proceed 1 0, .proceed 1 0,
    .begin (.close 0 5), .proceed 2 0, .proceed 2 0, .tick 5, .expire 2]

/-- A teardown whose deadline passed can be outlived by the flush of the schedule. -/
theorem run_final_outlived : ((initial 0 .standard).run outlived).TornDown 0 ∧
    ¬ ((initial 0 .standard).run outlived).Final 0 := by
  have tasks : ((initial 0 .standard).run outlived).tasks = [(1, .scheduledFlush 0 0)] := rfl
  have held : ((initial 0 .standard).run outlived).holding 0 = some ([1], ⟨-1, 1⟩) := rfl
  have torn : ((initial 0 .standard).run outlived).TornDown 0 := by
    refine ⟨⟨_, rfl, rfl⟩, fun task own here => ?_⟩
    rw [tasks, Table.get?] at here
    split at here
    · rw [← Option.some.inj here]
      exact id
    · cases here
  refine ⟨torn, fun final => ?_⟩
  rcases (run_final 0 .standard outlived torn).mp final with empty | unlaunched
  · obtain ⟨queue, here, _⟩ := torn.closed
    rw [holding, here, Option.map_some, empty queue here] at held
    cases held
  · exact unlaunched 1 0 (by rw [tasks]; rfl)

/-- The message is acknowledged after the teardown. -/
example : (account 0 ((initial 0 .standard).run outlived) [.answer 1 (.value ())]).requests =
    [.ofRange (.ofNames "s" "g" "p" "b" "c" .shared) 1 1] :=
  rfl

end PullConsumer.World
