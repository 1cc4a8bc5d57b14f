import PullConsumer.Proofs.Client.Alarms
import PullConsumer.Proofs.Client.Awaited
import PullConsumer.Proofs.Client.Runs

/-! # The pace of the schedules along a run

Over every run the schedule of a queue keeps the pace that the settings of its making call for, and
it goes on until it is stopped from outside (`World.run_paced`).
-/

namespace PullConsumer

/-- The beat by which a schedule gets from one point to another, with the ends of flushes that are
on file. -/
def Schedule.beat? (now : Nat) (heard : Bool) (ended? : TaskId → Option FlushEnd) :
    Schedule → Schedule → Option Beat
  | .entering _, .idle due | .entering _, .backingOff _ due => some (.waits now due)
  | .idle _, .flushing _ flush | .backingOff _ _, .flushing _ flush =>
    some (.launches now flush heard)
  | .flushing _ flush, .entering _ => (ended? flush).map (.ends flush)
  | _, _ => none

/-- A schedule that stays where it is makes no beat. -/
theorem Schedule.beat?_self (now : Nat) (heard : Bool) (ended? : TaskId → Option FlushEnd)
    (schedule : Schedule) : schedule.beat? now heard ended? schedule = none := by
  cases schedule <;> rfl

/-- A schedule makes no beat by being stopped. -/
theorem Schedule.beat?_stopped (now : Nat) (heard : Bool) (ended? : TaskId → Option FlushEnd)
    (schedule : Schedule) : schedule.beat? now heard ended? .stopped = none := by
  cases schedule <;> rfl

/-- Whether a task goes on by itself, and not because its time has come. -/
def Event.proceeds : Event → Bool
  | .proceed .. => true
  | _ => false

namespace World

variable {world : World} {name : QueueId} {queue next : AckQueue} {event : Event}

/-- What the schedule of a queue does by an event, if it does anything. -/
def beat? (world : World) (name : QueueId) (event : Event) : Option Beat :=
  match world.queues.get? name, (world.step event).1.queues.get? name with
  | some queue, some next =>
    queue.schedule.beat? world.clock event.proceeds world.ended? next.schedule
  | _, _ => none

/-- What the schedule of a queue does in the course of events. -/
def beats (name : QueueId) : World → List Event → List Beat
  | _, [] => []
  | world, event :: rest =>
    (world.beat? name event).toList ++ beats name (world.step event).1 rest

/-- The beat of an event is that between the schedules before and after it. -/
theorem beat?_of_get? (here : world.queues.get? name = some queue)
    (there : (world.step event).1.queues.get? name = some next) :
    world.beat? name event =
      queue.schedule.beat? world.clock event.proceeds world.ended? next.schedule := by
  simp only [beat?, here, there]

/-- A queue that does not exist has no beat. -/
theorem beat?_of_absent (absent : world.queues.get? name = none) :
    world.beat? name event = none := by
  simp only [beat?, absent]

/-! ### Steps -/

/-- A queue keeps the pace that some settings call for, and its schedule is run by a task. -/
structure Keeps (world : World) (name : QueueId) (made : Settings) (beats : List Beat)
    (queue : AckQueue) : Prop where
  interval : queue.interval = max made.ackFlushInterval.toNat 1
  backoff : queue.backoff = ⟨made.retryBaseBackoff, made.retryMaxBackoff⟩
  inTime : Beat.InTime made beats
  leads : Beat.Leads beats queue.schedule
  led : queue.schedule = .absent ∨ queue.schedule = .stopped ∨
    ∃ loop, queue.loop = some loop ∧ world.tasks.get? loop = some (.schedule name)

/-- Only a schedule that runs takes a turn. -/
theorem Turn.running {loop : TaskId} {after : World} {schedule : Schedule}
    (turn : Turn world name queue loop event after schedule) :
    queue.schedule ≠ .absent ∧ queue.schedule ≠ .stopped := by
  cases turn with
  | rests draw here | backsOff draw failures here | hears draw due here | elapses due here
  | retries failures due here | notes draw failures flush ended here =>
      rw [here]
      exact ⟨nofun, nofun⟩

/-- A turn of the schedule is a beat that may follow. -/
theorem Turn.follows {loop : TaskId} {after : World} {schedule : Schedule} {made : Settings}
    {beats : List Beat} (turn : Turn world name queue loop event after schedule)
    (keeps : world.Keeps name made beats queue) : ∃ beat,
      queue.schedule.beat? world.clock event.proceeds world.ended? schedule = some beat ∧
        Beat.Follows made beats beat ∧ Beat.Leads (beats ++ [beat]) schedule := by
  have leads := keeps.leads
  cases turn with
  | rests draw entering =>
      rw [entering] at leads ⊢
      obtain ⟨calm, ready⟩ := leads
      rw [keeps.interval]
      exact ⟨_, rfl, .rests world.clock ready calm.symm, _, _, rfl, calm.symm⟩
  | backsOff draw failures entering =>
      rw [entering] at leads ⊢
      obtain ⟨failed, ready⟩ := leads
      rcases ready with rfl | ⟨before, flush, ended, rfl⟩
      · cases failed
      · obtain ⟨low, high⟩ := queue.backoff.delay_bounds failures draw
        rw [Backoff.longest_eq, failed, keeps.backoff] at low high
        rw [keeps.backoff]
        refine ⟨_, rfl, .backsOff world.clock _ ?_ low high, _, _, rfl, failed⟩
        rw [← failed]
        exact Nat.succ_ne_zero failures
  | hears draw due idle =>
      rw [idle] at leads ⊢
      obtain ⟨before, began, rfl, calm⟩ := leads
      refine ⟨_, rfl, .hears world.clock world.nextTask calm, _, _, _, rfl, ?_⟩
      rw [Beat.failures_concat]
      exact calm.symm
  | elapses due idle late =>
      rw [idle] at leads ⊢
      obtain ⟨before, began, rfl, calm⟩ := leads
      refine ⟨_, rfl, .elapses world.clock world.nextTask late, _, _, _, rfl, ?_⟩
      rw [Beat.failures_concat]
      exact calm.symm
  | retries failures due backingOff late =>
      rw [backingOff] at leads ⊢
      obtain ⟨before, began, rfl, count⟩ := leads
      refine ⟨_, rfl, .elapses world.clock world.nextTask late, _, _, _, rfl, ?_⟩
      rw [Beat.failures_concat]
      exact count
  | notes draw failures flush ended flushing found =>
      rw [flushing] at leads ⊢
      obtain ⟨before, now, heard, rfl, count⟩ := leads
      have filed : world.ended? flush = some ended := found
      refine ⟨.ends flush ended, ?_, .notes ended, ?_, .inr ⟨_, _, _, rfl⟩⟩
      · simp only [Schedule.beat?, filed, Option.map_some]
      · rw [Beat.failures_concat, Beat.failures_concat, count]
        rfl

/-- Every event keeps the pace of a queue. -/
theorem Proper.keeps_step (proper : world.Proper) (event : Event)
    (here : world.queues.get? name = some queue)
    (there : (world.step event).1.queues.get? name = some next) {made : Settings}
    {beats : List Beat} (keeps : world.Keeps name made beats queue) :
    (world.step event).1.Keeps name made (beats ++ (world.beat? name event).toList) next := by
  obtain ⟨after, found, stride⟩ := proper.stride event here
  cases there.symm.trans found
  obtain ⟨interval, backoff⟩ := stride.timing
  obtain ⟨other, present, step⟩ := proper.scheduleStep event here
  cases there.symm.trans present
  -- The task that runs the schedule stays unless the schedule is stopped.
  have stays : next.loop = queue.loop → (∀ loop, world.tasks.get? loop = some (.schedule name) →
      (world.step event).1.tasks.get? loop = some (.schedule name)) →
      (∃ loop, queue.loop = some loop ∧ world.tasks.get? loop = some (.schedule name)) →
      ∃ loop, next.loop = some loop ∧
        (world.step event).1.tasks.get? loop = some (.schedule name) := by
    rintro runs tasks ⟨loop, own, alive⟩
    exact ⟨loop, runs.trans own, tasks loop alive⟩
  rw [beat?_of_get? here there]
  cases step with
  | stays schedule runs tasks =>
      rw [schedule, Schedule.beat?_self, Option.toList_none, List.append_nil]
      refine ⟨interval.trans keeps.interval, backoff.trans keeps.backoff, keeps.inTime, ?_, ?_⟩
      · rw [schedule]
        exact keeps.leads
      · rw [schedule]
        exact keeps.led.imp_right (Or.imp_right (stays runs tasks))
  | starts absent entering runs own =>
      have leads := keeps.leads
      rw [absent] at leads ⊢
      rw [entering]
      have none : beats = [] := leads
      subst none
      exact ⟨interval.trans keeps.interval, backoff.trans keeps.backoff, keeps.inTime,
        by rw [entering]; exact ⟨rfl, .inl rfl⟩, .inr (.inr ⟨_, runs, own⟩)⟩
  | turns loop own turn runs tasks =>
      obtain ⟨beat, does, follows, leads⟩ := turn.follows keeps
      rw [does]
      refine ⟨interval.trans keeps.interval, backoff.trans keeps.backoff,
        keeps.inTime.concat follows, leads, .inr (.inr ?_)⟩
      obtain ⟨started, running⟩ := turn.running
      exact stays runs tasks ((keeps.led.resolve_left started).resolve_left running)
  | stops outside schedule =>
      by_cases absent : queue.schedule = .absent
      · have leads := keeps.leads
        rw [if_pos absent] at schedule
        rw [absent] at leads
        have still : Schedule.beat? world.clock event.proceeds world.ended? .absent .absent =
            none := rfl
        rw [absent, schedule, still, Option.toList_none, List.append_nil]
        refine ⟨interval.trans keeps.interval, backoff.trans keeps.backoff, keeps.inTime, ?_,
          .inl schedule⟩
        rw [schedule]
        exact leads
      · rw [if_neg absent] at schedule
        rw [schedule, Schedule.beat?_stopped, Option.toList_none, List.append_nil]
        refine ⟨interval.trans keeps.interval, backoff.trans keeps.backoff, keeps.inTime, ?_,
          .inr (.inl schedule)⟩
        rw [schedule]
        trivial

/-! ### Runs -/

/-- A new queue keeps the pace of the settings under which it is made. -/
theorem keeps_of_made {assignment : Assignment} {settings : Settings}
    (made : AckQueue.Made assignment settings queue)
    (led : queue.schedule = .absent ∨ ∃ loop, queue.loop = some loop ∧
      world.tasks.get? loop = some (.schedule name)) : world.Keeps name settings [] queue where
  interval := by cases made <;> rfl
  backoff := by cases made <;> rfl
  inTime := Beat.inTime_nil settings
  leads := by
    cases made with
    | opened => rfl
    | started loop => exact ⟨rfl, .inl rfl⟩
  led := led.imp_right .inr

/-- From a state in which a queue keeps its pace, a run keeps it. -/
theorem Proper.keeps (proper : world.Proper) (events : List Event) (earlier : Option Settings)
    (beats : List Beat)
    (start : ∀ queue, world.queues.get? name = some queue → ∃ made, earlier = some made ∧
      world.Keeps name made beats queue)
    (empty : world.queues.get? name = none → earlier = none ∧ beats = []) :
    ∀ queue, (world.run events).queues.get? name = some queue →
      ∃ made, earlier.or (madeUnder name world events) = some made ∧
        (world.run events).Keeps name made (beats ++ World.beats name world events) queue := by
  -- The settings of the making and the beats so far are carried along.
  induction events generalizing world earlier beats with
  | nil =>
      intro queue here
      rw [madeUnder, Option.or_none, World.beats, List.append_nil]
      exact start queue here
  | cons event rest ih =>
      rw [madeUnder, ← Option.or_assoc, World.beats, ← List.append_assoc]
      refine ih (proper.step event) (earlier.or (world.madeIn name event)) _ ?_ ?_
      · intro next there
        cases here : world.queues.get? name with
        | none =>
            obtain ⟨⟨assignment, _, made⟩, led⟩ := proper.made event here there
            obtain ⟨nothing, silent⟩ := empty here
            rw [nothing, silent, madeIn_of_absent here there, beat?_of_absent here]
            exact ⟨_, rfl, keeps_of_made made led⟩
        | some queue =>
            obtain ⟨made, under, keeps⟩ := start queue here
            rw [under]
            exact ⟨made, rfl, proper.keeps_step event here there keeps⟩
      · intro gone
        cases here : world.queues.get? name with
        | none =>
            obtain ⟨nothing, silent⟩ := empty here
            rw [nothing, silent, beat?_of_absent here]
            simp only [madeIn, here, gone]
            exact ⟨rfl, rfl⟩
        | some queue =>
            obtain ⟨after, found, _⟩ := proper.stride event here
            exact absurd (found.symm.trans gone) (Option.some_ne_none after)

/-! ### What a schedule can do -/

/-- The schedule of a queue goes on as soon as it has a reason to. A wait that is due ends, whether
it is one of the interval or one after failures. -/
structure KeepsGoing (world : World) (name : QueueId) (queue : AckQueue) (loop : TaskId) :
    Prop where
  enters : ∀ failures draw, queue.schedule = .entering failures →
    ∃ due, world.beat? name (.proceed loop draw) = some (.waits world.clock due)
  hears : ∀ due draw, queue.schedule = .idle due → queue.signal.listener = .notified →
    world.beat? name (.proceed loop draw) = some (.launches world.clock world.nextTask true)
  elapses : ∀ due,
    (queue.schedule = .idle due ∨ ∃ failures, queue.schedule = .backingOff failures due) →
    due ≤ world.clock →
    world.beat? name (.expire loop) = some (.launches world.clock world.nextTask false)
  notes : ∀ failures flush ended draw, queue.schedule = .flushing failures flush →
    world.ended? flush = some ended →
    world.beat? name (.proceed loop draw) = some (.ends flush ended)

/-- A flush that is launched is on its way. -/
theorem launch_queue (world : World) (loop : TaskId) (name : QueueId) (queue : AckQueue)
    (failures : Nat) : (world.launch loop name queue failures).queues.get? name =
      some (queue.launch failures world.nextTask) :=
  (Table.get?_set ..).trans (if_pos rfl)

/-- The beat of a schedule that proceeds is that between its points. -/
theorem beat?_proceed {loop : TaskId} {draw : Nat} (here : world.queues.get? name = some queue)
    (own : world.tasks.get? loop = some (.schedule name))
    (there : (world.proceedSchedule loop name draw).queues.get? name = some next) :
    world.beat? name (.proceed loop draw) =
      queue.schedule.beat? world.clock true world.ended? next.schedule := by
  refine beat?_of_get? here ?_
  simp only [step, proceed, own]
  exact there

/-- A schedule that is run by a task keeps going. -/
theorem keepsGoing {loop : TaskId} (here : world.queues.get? name = some queue)
    (own : world.tasks.get? loop = some (.schedule name)) : world.KeepsGoing name queue loop := by
  refine ⟨fun failures draw entering => ?_, fun due draw idle notified => ?_,
    fun due waiting late => ?_, fun failures flush ended draw flushing filed => ?_⟩
  · have there : (world.proceedSchedule loop name draw).queues.get? name =
        some (queue.enterWait world.clock draw) := by
      simp only [proceedSchedule, here, entering]
      exact (Table.get?_set ..).trans (if_pos rfl)
    rw [beat?_proceed here own there]
    cases failures with
    | zero =>
        simp only [AckQueue.enterWait, entering]
        exact ⟨_, rfl⟩
    | succ failures =>
        simp only [AckQueue.enterWait, entering]
        exact ⟨_, rfl⟩
  · have there : (world.proceedSchedule loop name draw).queues.get? name =
        some ({ queue with signal := queue.signal.consume }.launch 0 world.nextTask) := by
      simp only [proceedSchedule, here, idle, notified, if_true]
      exact launch_queue ..
    rw [beat?_proceed here own there, idle]
    rfl
  · have waits : queue.scheduleDue? = some due := by
      rcases waiting with idle | ⟨failures, backing⟩
      · simp only [AckQueue.scheduleDue?, idle]
      · simp only [AckQueue.scheduleDue?, backing]
    have due? : world.due? loop = some due := by
      simp only [due?, own, here, Option.bind_some, waits]
    have early : (world.due? loop).all (world.clock < ·) = false := by
      rw [due?, Option.all_some]
      exact decide_eq_false (Nat.not_lt.mpr late)
    have expires : (world.step (.expire loop)).1 = world.expireSchedule loop name := by
      simp only [step, expire, early, own, Bool.false_eq_true, if_false]
    rcases waiting with idle | ⟨failures, backing⟩
    · have there : (world.step (.expire loop)).1.queues.get? name =
          some ({ queue with signal := queue.signal.leave }.launch 0 world.nextTask) := by
        rw [expires]
        simp only [expireSchedule, here, idle, if_pos late]
        exact launch_queue ..
      rw [beat?_of_get? here there, idle]
      rfl
    · have there : (world.step (.expire loop)).1.queues.get? name =
          some (queue.launch failures world.nextTask) := by
        rw [expires]
        simp only [expireSchedule, here, backing, if_pos late]
        exact launch_queue ..
      rw [beat?_of_get? here there, backing]
      rfl
  · have found : (world.results.get? flush).bind flushEnd? = some ended := filed
    have there : (world.proceedSchedule loop name draw).queues.get? name =
        some (queue.noteFlush failures ended).1 := by
      simp only [proceedSchedule, here, flushing, found]
      rw [(frame_emitAll _ _).1]
      exact (Table.get?_set ..).trans (if_pos rfl)
    rw [beat?_proceed here own there, queue.noteFlush_schedule failures ended, flushing]
    simp only [Schedule.beat?, filed, Option.map_some]

/-- The signal is heard only where it was raised. -/
theorem Proper.notified_of_heard (proper : world.Proper) {now : Nat} {flush : TaskId}
    (here : world.queues.get? name = some queue)
    (heard : world.beat? name event = some (.launches now flush true)) :
    queue.signal.listener = .notified := by
  obtain ⟨next, there, step⟩ := proper.scheduleStep event here
  rw [beat?_of_get? here there] at heard
  cases step with
  | stays schedule =>
      rw [schedule, Schedule.beat?_self] at heard
      cases heard
  | starts absent entering =>
      rw [absent, entering] at heard
      cases heard
  | turns loop own turn =>
      generalize next.schedule = schedule at turn heard
      cases turn with
      | hears draw due idle notified => exact notified
      | rests draw entering | backsOff draw failures entering =>
          rw [entering] at heard
          cases heard
      | elapses due idle | retries failures due idle =>
          rw [idle] at heard
          cases heard
      | notes draw failures flush ended flushing found =>
          have filed : world.ended? flush = some ended := found
          rw [flushing] at heard
          simp [Schedule.beat?, filed] at heard
  | stops outside schedule =>
      by_cases absent : queue.schedule = .absent
      · rw [schedule, if_pos absent, absent] at heard
        cases heard
      · rw [schedule, if_neg absent, Schedule.beat?_stopped] at heard
        cases heard

/-- A schedule is stopped from outside, and then only. -/
theorem Proper.stops_of_stopped (proper : world.Proper)
    (here : world.queues.get? name = some queue)
    (there : (world.step event).1.queues.get? name = some next)
    (stopped : next.schedule = .stopped) : queue.schedule = .stopped ∨ world.Stops name event := by
  obtain ⟨other, found, step⟩ := proper.scheduleStep event here
  cases there.symm.trans found
  cases step with
  | stays schedule => exact .inl (schedule.symm.trans stopped)
  | starts absent entering => cases entering.symm.trans stopped
  | turns loop own turn =>
      rw [stopped] at turn
      cases turn
  | stops outside => exact .inr outside

/-- What holds of a queue whose schedule went through some beats, under the settings of its
making. -/
structure Paced (world : World) (name : QueueId) (queue : AckQueue) (made : Settings)
    (beats : List Beat) : Prop where
  inTime : Beat.InTime made beats
  exact : (Backoff.mk made.retryBaseBackoff made.retryMaxBackoff).Exact
  signalled : ∀ event now flush, world.beat? name event = some (.launches now flush true) →
    queue.signal.listener = .notified
  outside : ∀ event next, (world.step event).1.queues.get? name = some next →
    next.schedule = .stopped → queue.schedule = .stopped ∨ world.Stops name event
  goesOn : queue.schedule ≠ .absent → queue.schedule ≠ .stopped →
    ∃ loop, world.tasks.get? loop = some (.schedule name) ∧ world.KeepsGoing name queue loop
  awaited : ∀ failures flush, queue.schedule = .flushing failures flush → world.Awaited name flush

/-- **The pace of a schedule.** After every run, the schedule of each queue has gone through beats
of which each may follow on those before it under the settings of the making of the queue. A flush
that does not fail is followed by a wait of the interval, which the signal may cut short. The `k`-th
failure in a row is followed by a wait for a delay between half of the bound for `k` and this bound,
which the signal does not cut short. The bound is the exact product of step and failures up to the
cap. A schedule that runs has a task that goes on as soon as it has a reason to, and it waits only
for flushes that are in progress or have ended, so that nothing but an event from outside stops it.
-/
theorem run_paced (epoch : Nat) (settings : Settings) (events : List Event) {name : QueueId}
    {queue : AckQueue}
    (here : ((initial epoch settings).run events).queues.get? name = some queue) :
    ∃ made, madeUnder name (initial epoch settings) events = some made ∧
      ((initial epoch settings).run events).Paced name queue made
        (beats name (initial epoch settings) events) := by
  have proper : (initial epoch settings).Proper := proper_initial epoch settings
  obtain ⟨made, under, keeps⟩ := proper.keeps events none []
    (fun queue early => absurd early.symm (Option.some_ne_none queue)) (fun _ => ⟨rfl, rfl⟩) queue
    here
  rw [Option.none_or] at under
  refine ⟨made, under, ?_⟩
  have later := proper.run events
  exact
    { inTime := keeps.inTime
      exact := Backoff.exact _
      signalled := fun _ _ _ => later.notified_of_heard here
      outside := fun _ _ => later.stops_of_stopped here
      goesOn := fun started running => by
        obtain ⟨loop, _, own⟩ := (keeps.led.resolve_left started).resolve_left running
        exact ⟨loop, own, keepsGoing here own⟩
      awaited := fun failures flush =>
        (run_awaiting epoch settings events).awaited name queue failures flush here }

/-- Settings under which the second failure in a row brings the delay to its cap. -/
def steep : Settings :=
  { Settings.standard with retryBaseBackoff := 300, retryMaxBackoff := 450 }

/-- Two failures in a row, of which the second is a breakdown, and a flush that succeeds. -/
def twoFailures : List Event :=
  [.openQueue (.ofNames "s" "g" "p" "b" "c" .shared), .startQueue 0,
    .receive 0 "s" (fun _ => true) none [(default : Message).setKey .pullOffset "1"],
    .resolve 0 1 .complete, .proceed 0 0, .tick 1000, .expire 0, .proceed 1 0, .proceed 1 0,
    .answer 1 (.failed (.ackSend "x")), .proceed 0 0, .proceed 0 7, .tick 157, .expire 0,
    .proceed 2 0, .proceed 2 0, .answer 2 (.panicked "x"), .proceed 0 0, .proceed 0 225, .tick 450,
    .expire 0, .proceed 3 0, .proceed 3 0, .answer 3 (.value ()), .proceed 3 0, .proceed 3 0,
    .proceed 0 0, .proceed 0 0]

/-- The delays grow with the failures up to the cap, and the success ends them. -/
theorem run_paced_twoFailures : ∃ queue,
    ((initial 0 steep).run twoFailures).queues.get? 0 = some queue ∧
    madeUnder 0 (initial 0 steep) twoFailures = some steep ∧
    ((initial 0 steep).run twoFailures).Paced 0 queue steep
      [.waits 0 1000, .launches 1000 1 false, .ends 1 (.outcome (.failed 1)), .waits 1000 1157,
        .launches 1157 2 false, .ends 2 (.panicked "x"), .waits 1157 1607, .launches 1607 3 false,
        .ends 3 (.outcome .drained), .waits 1607 2607] := by
  have here : ((initial 0 steep).run twoFailures).queues.get? 0 = some _ := rfl
  have under : madeUnder 0 (initial 0 steep) twoFailures = some steep := rfl
  have course : beats 0 (initial 0 steep) twoFailures = [.waits 0 1000,
      .launches 1000 1 false, .ends 1 (.outcome (.failed 1)), .waits 1000 1157,
      .launches 1157 2 false, .ends 2 (.panicked "x"), .waits 1157 1607, .launches 1607 3 false,
      .ends 3 (.outcome .drained), .waits 1607 2607] := rfl
  obtain ⟨made, found, paced⟩ := run_paced 0 steep twoFailures here
  cases under.symm.trans found
  rw [course] at paced
  exact ⟨_, here, under, paced⟩

end World

end PullConsumer
