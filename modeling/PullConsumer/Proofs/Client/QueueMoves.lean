import PullConsumer.Proofs.Client.QueueSteps

/-! # How a queue moves

The procedures that concern a queue are the start, the turns and the end of its schedule, and the
beginning, the steps and the end of its flushes. Each of them moves the queue (`World.Moved`), with
the task that runs it.
-/

namespace PullConsumer.World

variable {world : World} {name target : QueueId} {task : TaskId} {queue next : AckQueue}
  {event : Event} {changes : List Change} {own : Task}

/-! ### Ends of schedules -/

/-- The task that runs a schedule runs no flush, and no other schedule. -/
theorem Tidy.loop_serves (tidy : world.Tidy target) (here : world.queues.get? target = some queue)
    {loop : TaskId} (runs : queue.loop = some loop) :
    world.flushOf? loop = none ∧
      ∀ name, target ≠ name → world.tasks.get? loop ≠ some (.schedule name) := by
  have may := (tidy.loop queue loop here runs).2
  refine ⟨may.flushOf?, fun name different own => ?_⟩
  rcases may with gone | schedule
  · exact Option.some_ne_none _ (own.symm.trans gone)
  · cases schedule.symm.trans own
    exact different rfl

/-- The end of a schedule leaves the flushes of all queues alone. -/
theorem Tidy.halting_spares (tidy : world.Tidy target)
    (here : world.queues.get? target = some queue) (name : QueueId) :
    ∀ change ∈ halting queue, change.SparesTasks world name := by
  refine forall_halting.mpr fun loop runs => ?_
  rw [Change.SparesTasks, (tidy.loop_serves here runs).1]
  exact (Option.some_ne_none name).symm

/-- The end of a schedule leaves other queues alone. -/
theorem Tidy.halting_alone (tidy : world.Tidy target)
    (here : world.queues.get? target = some queue) (different : target ≠ name) :
    ∀ change ∈ halting queue, change.LeavesAlone world name := by
  refine forall_halting.mpr fun loop runs => ⟨(Option.some_ne_none name).symm, ?_, ?_⟩
  · exact tidy.halting_spares here name _ (by simp [halting, runs])
  · exact (tidy.loop_serves here runs).2 name different

/-- The end of a schedule keeps the flushes of its queue, and names no task that was not named. -/
theorem stopSchedule_keeps (queue : AckQueue) : queue.stopSchedule.flushes = queue.flushes ∧
    ∀ loop, queue.stopSchedule.loop = some loop → queue.loop = some loop := by
  unfold AckQueue.stopSchedule
  split
  · exact ⟨rfl, fun _ => id⟩
  · exact ⟨rfl, nofun⟩

/-! ### The beginning of a bounded flush -/

/-- The changes by which a queue gets ready for a bounded flush: it is closed if the flush is
final. -/
inductive Readies (world : World) (name : QueueId) (queue : AckQueue) (event : Event) :
    List Change → AckQueue → Prop
  | opens : Readies world name queue event [] queue
  | closes (outside : world.Stops name event) :
      Readies world name queue event (halting queue)
        { queue with destroyed := true }.stopSchedule

namespace Readies

variable {ready : AckQueue}

/-- A queue gets ready without a mark. -/
theorem moves (readies : world.Readies name queue event changes ready) :
    queue.Moves [] ready := by
  cases readies with
  | opens => exact .refl queue
  | closes => exact (AckQueue.Move.background .destroy).moves

/-- A queue that gets ready is as before, or closed. -/
theorem eq_or_eq (readies : world.Readies name queue event changes ready) :
    ready = queue ∨ ready = { queue with destroyed := true }.stopSchedule := by
  cases readies with
  | opens => exact .inl rfl
  | closes => exact .inr rfl

/-- A queue that gets ready keeps its flushes, and gets no other task. -/
theorem rest (readies : world.Readies name queue event changes ready) :
    ready.flushes = queue.flushes ∧ ∀ loop, ready.loop = some loop → queue.loop = some loop := by
  cases readies with
  | opens => exact ⟨rfl, fun _ => id⟩
  | closes => exact stopSchedule_keeps { queue with destroyed := true }

/-- A queue gets ready in silence. -/
theorem silent (readies : world.Readies name queue event changes ready) :
    Change.effectsOf changes = [] := by
  cases readies with
  | opens => rfl
  | closes => exact effectsOf_halting queue

/-- A queue gets ready without a change to the tasks that flush it. -/
theorem spares (readies : world.Readies name queue event changes ready) (tidy : world.Tidy name)
    (here : world.queues.get? name = some queue) :
    ∀ change ∈ changes, change.SparesTasks world name := by
  cases readies with
  | opens => exact List.forall_mem_nil _
  | closes => exact tidy.halting_spares here name

end Readies

/-! ### Dropped flushes -/

/-- A flush that is dropped along with its task is off its queue, and the task is gone. -/
theorem after_dropping (used : task < world.nextTask) {later : List Change} {result : TaskResult}
    (ends : .finish task result ∈ later)
    (only : ∀ change ∈ later, change = .finish task result ∨ ∃ effect, change = .effect effect) :
    (world.after (dropping task name queue ++ later)).queues.get? name =
        some (queue.closeFlush task).1 ∧
      (world.after (dropping task name queue ++ later)).tasks.get? task = none := by
  have about : ∀ change ∈ dropping task name queue ++ later,
      (change.queue? = some name → change = .setQueue name (queue.closeFlush task).1) ∧
        ∀ next, change ≠ .setTask task next := by
    refine List.forall_mem_append.mpr ⟨by simp, fun change member => ?_⟩
    rcases only change member with rfl | ⟨effect, rfl⟩ <;> simp
  exact ⟨queue_set (by simp [dropping]) fun change member => (about change member).1,
    task_ended used (List.mem_append_right _ ends) fun next member => (about _ member).2 next rfl⟩

/-- The end of a dropped flush tells of no call. -/
theorem ofEffects_dropping {later : List Change}
    (silent : Account.ofEffects (Change.effectsOf later) = []) :
    Account.ofEffects (Change.effectsOf (dropping task name queue ++ later)) = [] := by
  rw [effectsOf_append, Account.ofEffects_append, silent, effectsOf_dropping,
    AckQueue.ofEffects_closeFlush]
  rfl

/-! ### Steps of one queue -/

namespace Moved

/-- The schedule of a queue is started as a task of its own. -/
theorem starts (numbered : world.Numbered) (tidy : world.Tidy name)
    (here : world.queues.get? name = some queue) (unstarted : queue.isStarted = false)
    (unhanded : world.handed name event = []) :
    Moved world name queue event
      [.spawn (.schedule name), .setQueue name (queue.startSchedule world.nextTask)] []
      (queue.startSchedule world.nextTask) := by
  have absent : queue.schedule = .absent := by
    simp only [AckQueue.isStarted, Bool.or_eq_false_iff] at unstarted
    simpa using unstarted.1
  have launched : (world.after [.spawn (.schedule name),
      .setQueue name (queue.startSchedule world.nextTask)]).tasks.get? world.nextTask =
      some (.schedule name) := by
    simp [apply, setQueue, Table.get?_set]
  have stride : queue.Stride [] (queue.startSchedule world.nextTask) :=
    .move (.background (.start world.nextTask unstarted))
  refine .adjusts numbered tidy here ((Table.get?_set ..).trans (if_pos rfl)) rfl
    (offers_of_unhanded unhanded) stride rfl ?_ (fun task loops => .inr ?_)
    (.background (.start _ unstarted) ?_ fun _ _ flushing => ?_)
    (.starts absent rfl rfl launched)
  · simp [Task.flushOf?]
  · cases loops
    exact ⟨by simp [apply, setQueue], .inr launched⟩
  · intro failures flush flushing
    cases flushing
  · cases absent.symm.trans flushing

/-- A message is registered or refused. -/
theorem registers (numbered : world.Numbered) (tidy : world.Tidy name)
    (here : world.queues.get? name = some queue) (message : Message) :
    Moved world name queue (.register name message)
      [.setQueue name (queue.register message).1] [] (queue.register message).1 := by
  have offered : world.offers name (world.handed name (.register name message)) =
      [.offered message (queue.register message).2] := by
    simp [handed, offers, here, AckQueue.offers]
  exact .takes numbered tidy here (queue_set List.mem_cons_self (by simp)) rfl offered
    (.move (.register message)) (.register .refl message) rfl (by simp) (by simp)

/-- A batch of messages is taken in. -/
theorem receives (numbered : world.Numbered) (tidy : world.Tidy name)
    (here : world.queues.get? name = some queue) (subject : String) (accepts : Message → Bool)
    (hook : Option HookId) (messages : List Message) :
    Moved world name queue (.receive name subject accepts hook messages)
      (.setQueue name (queue.receive subject accepts messages).queue ::
        Change.effects (queue.receive subject accepts messages).effects) []
      (queue.receive subject accepts messages).queue := by
  have offered : world.offers name
      (world.handed name (.receive name subject accepts hook messages)) =
      queue.offers messages := by
    simp [handed, offers, here]
  exact .takes numbered tidy here (queue_set List.mem_cons_self (by simp))
    (by simp [Change.effect?]) offered (queue.receive_stride subject accepts messages)
    (queue.receive_takes subject accepts messages) rfl (by simp) (by simp)

/-- An entry is resolved, unless that comes late. -/
theorem resolves (numbered : world.Numbered) (tidy : world.Tidy name)
    (here : world.queues.get? name = some queue) (offset : Int) (verdict : Verdict) :
    Moved world name queue (.resolve name offset verdict)
      (.setQueue name (queue.resolve offset verdict).1 ::
        Change.effects (queue.resolve offset verdict).2) [] (queue.resolve offset verdict).1 := by
  obtain ⟨_, _, _, rest, _⟩ := queue.resolve_rest offset verdict
  have flushes : (queue.resolve offset verdict).1.flushes = queue.flushes := by rw [rest]
  have loop : (queue.resolve offset verdict).1.loop = queue.loop := by rw [rest]
  have schedule : (queue.resolve offset verdict).1.schedule = queue.schedule := by rw [rest]
  exact .adjusts numbered tidy here (queue_set List.mem_cons_self (by simp))
    (by simp [Change.effect?]) (offers_of_unhanded rfl) (.move (.resolve offset verdict)) flushes
    (by simp) (fun task loops => .inl (loop ▸ loops)) (.resolves offset verdict)
    (.stays schedule loop fun _ => schedule_kept (by simp) numbered)

/-- A delivered message is acknowledged in its queue. -/
theorem acknowledges (numbered : world.Numbered) {delivery : Delivery}
    (tidy : world.Tidy delivery.queue) (here : world.queues.get? delivery.queue = some queue) :
    Moved world delivery.queue queue (.acknowledge delivery)
      (.setQueue delivery.queue (queue.resolve delivery.offset .complete).1 ::
        Change.effects (queue.resolve delivery.offset .complete).2) []
      (queue.resolve delivery.offset .complete).1 :=
  .takes numbered tidy here (queue_set List.mem_cons_self (by simp)) (by simp [Change.effect?])
    (offers_of_unhanded rfl) (.move (.resolve delivery.offset .complete))
    (.complete .refl delivery.offset) rfl (by simp) (by simp)

/-- The schedule begins to wait. -/
theorem waits (numbered : world.Numbered) (tidy : world.Tidy name)
    (here : world.queues.get? name = some queue)
    (own : world.tasks.get? task = some (.schedule name)) {failures : Nat}
    (entering : queue.schedule = .entering failures) (draw : Nat) :
    Moved world name queue (.proceed task draw) [.setQueue name (queue.enterWait world.clock draw)]
      [] (queue.enterWait world.clock draw) := by
  have stride : queue.Stride [] (queue.enterWait world.clock draw) :=
    .move (.background (.enter world.clock draw))
  obtain ⟨signal, schedule, same, unlaunched, turn⟩ : ∃ signal schedule,
      queue.enterWait world.clock draw =
        { queue with signal := signal, schedule := schedule } ∧
      (∀ failures flush, schedule ≠ .flushing failures flush) ∧
      ∀ after, Turn world name queue task (.proceed task draw) after schedule := by
    cases failures with
    | zero =>
        refine ⟨queue.signal.listen, .idle (world.clock + queue.interval), ?_, nofun,
          fun _ => .rests draw entering⟩
        simp only [AckQueue.enterWait, entering]
    | succ failures =>
        refine ⟨queue.signal, .backingOff (failures + 1)
          (world.clock + queue.backoff.delay failures draw), ?_, nofun,
          fun _ => .backsOff draw failures entering⟩
        simp only [AckQueue.enterWait, entering]
  have scheduled : (queue.enterWait world.clock draw).schedule = schedule := by rw [same]
  have loop : (queue.enterWait world.clock draw).loop = queue.loop := by rw [same]
  refine .adjusts numbered tidy here ((Table.get?_set ..).trans (if_pos rfl)) rfl
    (offers_of_unhanded rfl) stride (by rw [same]) (by simp)
    (fun task loops => .inl (loop ▸ loops))
    (.background (.enter world.clock draw) (scheduled ▸ unlaunched) fun _ _ flushing => ?_)
    (.turns task own (scheduled ▸ turn _) loop fun _ => schedule_kept (by simp) numbered)
  cases entering.symm.trans flushing

/-- The schedule takes note of the end of its flush. -/
theorem notes (numbered : world.Numbered) (tidy : world.Tidy name)
    (here : world.queues.get? name = some queue)
    (own : world.tasks.get? task = some (.schedule name)) {failures : Nat} {flush : TaskId}
    {ended : FlushEnd} (flushing : queue.schedule = .flushing failures flush)
    (filed : (world.results.get? flush).bind flushEnd? = some ended) (draw : Nat) :
    Moved world name queue (.proceed task draw)
      (.collect flush :: .setQueue name (queue.noteFlush failures ended).1 ::
        Change.effects (queue.noteFlush failures ended).2) []
      (queue.noteFlush failures ended).1 := by
  obtain ⟨_, rest, _⟩ := queue.noteFlush_rest failures ended
  have scheduled := queue.noteFlush_schedule failures ended
  have loop : (queue.noteFlush failures ended).1.loop = queue.loop := by rw [rest]
  refine .adjusts numbered tidy here (queue_set (by simp) (by simp))
    (by simp [Change.effect?]) (offers_of_unhanded rfl)
    (.move (.background (.note failures flush ended flushing))) (by rw [rest]) (by simp)
    (fun task loops => .inl (loop ▸ loops))
    (.background (.note failures flush ended flushing) ?_ fun others other same entering => ?_)
    (.turns task own (scheduled ▸ .notes draw failures flush ended flushing filed) loop fun _ =>
      schedule_kept (by simp) numbered)
  · intro failures flush flushing
    rw [scheduled] at flushing
    cases flushing
  · -- It relies on the signal only if the flush ended well.
    rw [flushing] at same
    cases same
    obtain ⟨result, found, ends⟩ := Option.bind_eq_some_iff.mp filed
    cases result with
    | outcome outcome =>
        cases ends
        refine ⟨outcome, found, ?_⟩
        rintro entries rfl
        cases entering
    | panicked text =>
        cases ends
        cases entering
    | delivered | failed | done | cancelled => cases ends

/-- A queue whose schedule is ended from outside. -/
theorem stops (numbered : world.Numbered) (tidy : world.Tidy name)
    (here : world.queues.get? name = some queue) (outside : world.Stops name event)
    (unhanded : world.handed name event = []) :
    Moved world name queue event (stopping name queue) [] queue.stopSchedule := by
  obtain ⟨flushes, loop⟩ := stopSchedule_keeps queue
  have stride : queue.Stride [] queue.stopSchedule := .move (.background .stop)
  have scheduled := queue.stopSchedule_schedule
  refine .adjusts numbered tidy here (queue_set List.mem_cons_self ?_) (by simp)
    (offers_of_unhanded unhanded) stride flushes ?_ (fun task loops => .inl (loop task loops))
    (.background .stop ?_ ?_) (.stops outside scheduled)
  · simp
  · refine forall_stopping.mpr ⟨trivial, fun loop runs => ?_⟩
    exact tidy.halting_spares here name _ (by simp [halting, runs])
  · intro failures flush flushing
    rw [scheduled] at flushing
    split at flushing <;> cases flushing
  · intro failures flush flushing entering
    rw [scheduled, flushing] at entering
    cases entering

/-- A flush of the schedule is launched as a task of its own. -/
theorem launches (numbered : world.Numbered) (tidy : world.Tidy name)
    (here : world.queues.get? name = some queue) {heard : AckQueue} {failures : Nat}
    (own : world.tasks.get? task = some (.schedule name))
    (flushes : heard.flushes = queue.flushes) (same : heard.loop = queue.loop)
    (changed : queue.Background { heard with schedule := .flushing failures world.nextTask })
    (unhanded : world.handed name event = [])
    (turn : ∀ after : World,
      after.tasks.get? world.nextTask = some (.scheduledFlush name task) →
      Turn world name queue task event after (.flushing failures world.nextTask)) :
    Moved world name queue event [.spawn (.scheduledFlush name task),
      .setQueue name (heard.launch failures world.nextTask)] [] (heard.launch failures
        world.nextTask) := by
  have absent : queue.flushes.get? world.nextTask = none := by
    refine tidy.absent here ?_
    rw [numbered.flushOf? (Nat.le_refl _)]
    exact (Option.some_ne_none name).symm
  have stride : queue.Stride [] (heard.launch failures world.nextTask) :=
    .opens (AckQueue.Move.background changed).moves world.nextTask
      (by rw [← absent]; exact congrArg _ flushes)
  have there : (world.after [.spawn (.scheduledFlush name task),
      .setQueue name (heard.launch failures world.nextTask)]).queues.get? name =
      some (heard.launch failures world.nextTask) := (Table.get?_set ..).trans (if_pos rfl)
  have tasks : (world.after [.spawn (.scheduledFlush name task),
      .setQueue name (heard.launch failures world.nextTask)]).tasks =
      world.tasks.set world.nextTask (.scheduledFlush name task) := by simp [apply, setQueue]
  have launched : (world.after [.spawn (.scheduledFlush name task),
      .setQueue name (heard.launch failures world.nextTask)]).tasks.get? world.nextTask =
      some (.scheduledFlush name task) := by rw [tasks, Table.get?_set, if_pos rfl]
  refine ⟨there, rfl, ?_, .launches task changed rfl ?_ launched,
    .turns task own (turn _ launched) same fun loop before => ?_,
    .of_get? there ((tidy.sound queue here).stride stride) (fun other => ?_) fun other loops => ?_⟩
  · rw [offers_of_unhanded unhanded]
    exact stride
  · rw [← absent]
    exact congrArg _ flushes
  · rw [tasks, Table.get?_set, if_neg (Nat.ne_of_gt (numbered.lt_nextTask before)), before]
  · rw [flushOf?, tasks, AckQueue.launch, AckQueue.openFlush, Table.get?_set, Table.get?_set,
      flushes]
    split
    · exact ⟨fun _ => rfl, fun _ => rfl⟩
    · exact tidy.runs here other
  · obtain ⟨old, may⟩ := tidy.loop queue other here (same.symm.trans loops)
    rw [MayLoop, tasks, Table.get?_set, if_neg (Nat.ne_of_gt old)]
    exact ⟨Nat.lt_of_lt_of_le old (names_after world _).1, may⟩

/-- A bounded flush begins. -/
theorem opens (numbered : world.Numbered) (tidy : world.Tidy name)
    (here : world.queues.get? name = some queue) {pending begun : Task} {ready : AckQueue}
    {first : List Change} (readies : world.Readies name queue event first ready)
    (own : world.tasks.get? task = some pending) (idle : pending.flushOf? = none)
    (unscheduled : pending ≠ .schedule name) (begins : begun.flushOf? = some name)
    (unhanded : world.handed name event = []) :
    Moved world name queue event
      (first ++ [.setQueue name (ready.openFlush task), .setTask task begun]) []
      (ready.openFlush task) := by
  obtain ⟨flushes, loop⟩ := readies.rest
  have absent : ready.flushes.get? task = none := by
    rw [flushes]
    refine tidy.absent here ?_
    rw [flushOf?_of_get? own, idle]
    exact (Option.some_ne_none name).symm
  have stride : queue.Stride [] (ready.openFlush task) := .opens readies.moves task absent
  have there : (world.after (first ++ [.setQueue name (ready.openFlush task),
      .setTask task begun])).queues.get? name = some (ready.openFlush task) := by
    rw [after_append]
    exact (Table.get?_set ..).trans (if_pos rfl)
  have launched : (world.after (first ++ [.setQueue name (ready.openFlush task),
      .setTask task begun])).flushOf? task = some name := by
    rw [after_append]
    exact (congrArg (·.bind Task.flushOf?) ((Table.get?_set ..).trans (if_pos rfl))).trans begins
  refine ⟨there, ?_, ?_, .begins task readies.eq_or_eq absent, ?_,
    tidy.flushed numbered here there ((tidy.sound queue here).stride stride) own unscheduled
      ?_ (fun other different => ?_) ?_ loop⟩
  · rw [effectsOf_append, readies.silent]
    rfl
  · rw [offers_of_unhanded unhanded]
    exact stride
  · cases readies with
    | opens =>
        refine .stays rfl rfl fun loop runs => schedule_kept ?_ numbered runs
        simp [own, unscheduled]
    | closes outside =>
        exact .stops outside ({ queue with destroyed := true } : AckQueue).stopSchedule_schedule
  · refine List.forall_mem_append.mpr ⟨fun change member _ => ?_, ?_⟩
    · exact readies.spares tidy here change member
    · simp
  · rw [AckQueue.openFlush, Table.get?_set, if_neg different.symm, flushes]
  · rw [launched, AckQueue.openFlush, Table.get?_set, if_pos rfl]
    exact ⟨fun _ => rfl, fun _ => rfl⟩

/-- A step of a flush, which ends with its task if the flush has ended. -/
theorem follows (numbered : world.Numbered) (tidy : world.Tidy name)
    (here : world.queues.get? name = some queue) {final : Bool}
    (present : world.tasks.get? task = some own) (runs : own.flushOf? = some name)
    {step : FlushStep} (follows : step.Follows queue task) (acts : event.actor? = some task)
    (unhanded : world.handed name event = []) :
    Moved world name queue event (adopting task name final step) (.ofEffects step.effects)
      step.queue := by
  have owns : world.flushOf? task = some name := (flushOf?_of_get? present).trans runs
  have unscheduled : own ≠ .schedule name := by
    rintro rfl
    cases runs
  have there : (world.after (adopting task name final step)).queues.get? name =
      some step.queue := by
    refine queue_set List.mem_cons_self ?_
    simp
  have about : ∀ change ∈ adopting task name final step,
      (change.task? ≠ some task → change.SparesTasks world name) ∧
        change.SparesSchedule world name ∧ ∀ next, change ≠ .setTask task next := by
    simp [present, unscheduled]
  have told : world.linesOf name (.ofEffects (Change.effectsOf (adopting task name final step))) =
      .ofEffects step.effects := by
    have lines : Account.ofEffects (Change.effectsOf (adopting task name final step)) =
        .ofEffects step.effects := by
      cases ended : step.ended <;> simp [ended, Account.ofEffects_append]
    rw [lines, linesOf_about follows.about owns, if_pos rfl]
  refine ⟨there, told, ?_, .flushes task acts follows,
    .stays follows.schedule follows.loop fun _ => schedule_kept
      (fun change member => (about change member).2.1) numbered,
    tidy.flushed numbered here there ((tidy.sound queue here).stride follows.stride) present
      unscheduled (fun change member => (about change member).1) (fun other different => ?_) ?_
      fun loop loops => follows.loop ▸ loops⟩
  · rw [offers_of_unhanded unhanded]
    exact follows.stride
  · rw [follows.runs other]
    exact ⟨And.left, fun runs => ⟨runs, fun same => absurd same different⟩⟩
  · rw [follows.runs task, ← tidy.runs here task]
    have used := numbered.lt_nextTask present
    cases ended : step.ended with
    | none =>
        have kept : (world.after (adopting task name final step)).tasks.get? task =
            world.tasks.get? task := by
          refine task_kept used ?_
          simp [ended]
        rw [flushOf?, kept]
        exact ⟨fun own => ⟨own, fun _ => rfl⟩, And.left⟩
    | some outcome =>
        have gone : (world.after (adopting task name final step)).tasks.get? task = none := by
          have ends : .finish task (resultOf outcome) ∈ adopting task name final step := by
            simp [adopting, concluding, ended]
          exact task_ended used ends fun next member => (about _ member).2.2 next rfl
        rw [flushOf?, gone]
        exact ⟨fun none => absurd none.symm (Option.some_ne_none name),
          fun both => absurd (both.2 rfl) (Option.some_ne_none _)⟩

/-- A flush is dropped from its queue, and its task ends. -/
theorem drops (numbered : world.Numbered) (tidy : world.Tidy name)
    (here : world.queues.get? name = some queue)
    (present : world.tasks.get? task = some own) (unscheduled : own ≠ .schedule name)
    {later : List Change} {result : TaskResult}
    (silent : Account.ofEffects (Change.effectsOf later) = [])
    (ends : .finish task result ∈ later)
    (only : ∀ change ∈ later, change = .finish task result ∨ ∃ effect, change = .effect effect)
    (unhanded : world.handed name event = []) :
    Moved world name queue event (dropping task name queue ++ later) []
      (queue.closeFlush task).1 := by
  obtain ⟨_, _, rest⟩ := queue.closeFlush_rest task
  have schedule : (queue.closeFlush task).1.schedule = queue.schedule := by rw [rest]
  have loop : (queue.closeFlush task).1.loop = queue.loop := by rw [rest]
  have ⟨there, gone⟩ : (world.after (dropping task name queue ++ later)).queues.get? name =
        some (queue.closeFlush task).1 ∧
      (world.after (dropping task name queue ++ later)).tasks.get? task = none :=
    after_dropping (numbered.lt_nextTask present) ends only
  have about : ∀ change ∈ dropping task name queue ++ later,
      (change.task? ≠ some task → change.SparesTasks world name) ∧
        change.SparesSchedule world name := by
    refine List.forall_mem_append.mpr ⟨by simp, fun change member => ?_⟩
    rcases only change member with rfl | ⟨effect, rfl⟩
    · simp [present, unscheduled]
    · simp
  have stride : queue.Stride [] (queue.closeFlush task).1 := .move (.leave task)
  have runs := (tidy.sound queue here).turns.isSome_closeFlush task
  refine ⟨there, ?_, ?_, .leaves task,
    .stays schedule loop fun _ => schedule_kept (fun change member => (about change member).2)
      numbered,
    tidy.flushed numbered here there ((tidy.sound queue here).stride stride) present unscheduled
      (fun change member => (about change member).1) (fun other different => ?_) ?_
      fun loop' loops => loop ▸ loops⟩
  · rw [ofEffects_dropping silent]
    rfl
  · rw [offers_of_unhanded unhanded]
    exact stride
  · rw [runs other]
    exact ⟨And.right, fun runs => ⟨different, runs⟩⟩
  · rw [runs task, flushOf?, gone]
    exact ⟨fun none => absurd none.symm (Option.some_ne_none name), fun both => absurd rfl both.1⟩

end Moved

end PullConsumer.World
