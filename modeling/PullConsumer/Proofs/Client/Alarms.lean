import PullConsumer.Proofs.Client.Actors
import PullConsumer.Proofs.Client.Teardown
import PullConsumer.Proofs.Queue.Alarms

/-! # Wake-ups along a run

Along every run of a client, where the schedule of a queue waits for its signal and no wake-up is
under way, no full batch is ready to be sent (`World.run_alarmed`).
-/

namespace PullConsumer

/-- A queue that takes in messages and completed entries misses no batch. -/
theorem AckQueue.Takes.alarmed {queue next : AckQueue} {size : Nat} {maySend : TaskId → Prop}
    (takes : queue.Takes next) (sound : queue.Sound) (alarmed : queue.Alarmed size maySend) :
    next.Sound ∧ next.Alarmed size maySend := by
  induction takes with
  | refl => exact ⟨sound, alarmed⟩
  | register _ message ih => exact ⟨ih.1.move (.register message), ih.2.register message⟩
  | complete _ offset ih =>
      exact ⟨ih.1.resolve offset .complete, ih.2.resolve ih.1.ordered offset .complete⟩

namespace World

variable {world : World} {name : QueueId} {queue next : AckQueue} {event : Event}
  {flush task : TaskId}

/-! ### Flushes of the schedule -/

/-- Whether what is resolved may still be sent by a flush of the schedule: the flush is in progress,
or it did not end without failure and is followed by another. -/
def MaySend (world : World) (name : QueueId) (flush : TaskId) : Prop :=
  (∃ loop, world.tasks.get? flush = some (.scheduledFlush name loop)) ∨
    flush < world.nextTask ∧ world.tasks.get? flush = none ∧ ¬ world.EndedWell flush

/-- A flush that has ended sends nothing any more. -/
theorem Filed.not_maySend (filed : world.Filed) (ended : world.EndedWell flush) :
    ¬ world.MaySend name flush := by
  rintro (⟨loop, own⟩ | ⟨_, _, unended⟩)
  · obtain ⟨outcome, found, _⟩ := ended
    exact Option.some_ne_none _ (own.symm.trans (filed flush _ found).2)
  · exact unended ended

/-- A flush that ends without failure leaves nothing to send. -/
theorem adopt_maySend (numbered : world.Numbered) {loop : TaskId}
    (own : world.tasks.get? task = some (.scheduledFlush name loop)) {step : FlushStep}
    (follows : step.Follows queue task) :
    (world.adopt task name step).MaySend name task ∨ step.queue.readyOffsets = [] := by
  obtain ⟨_, tasks, _, nextTask, _⟩ := world.frame_adopt task name step
  cases ends : step.ended with
  | none =>
      rw [ends, if_pos rfl] at tasks
      exact .inl (.inl ⟨loop, by rw [tasks, own]⟩)
  | some ended =>
      rw [ends, if_neg (Option.some_ne_none ended)] at tasks
      have broken : ¬ (world.adopt task name step).EndedWell task →
          (world.adopt task name step).MaySend name task := by
        refine fun unended => .inr ⟨?_, ?_, unended⟩
        · rw [nextTask]
          exact numbered.lt_nextTask own
        · rw [tasks, Table.get?_erase, if_pos rfl]
      have filed : (world.adopt task name step).results.get? task = some (resultOf ended) := by
        rw [world.adopt_results task name ends, Table.get?_set, if_pos rfl]
      by_cases well : (world.adopt task name step).EndedWell task
      · obtain ⟨outcome, found, unfailed⟩ := well
        cases ended with
        | outcome other =>
            cases filed.symm.trans found
            exact .inr (follows.drained outcome ends unfailed)
        | panicked text => cases filed.symm.trans found
      · exact .inl (broken well)

/-- A flush that is cancelled did not end well. -/
theorem abort_maySend (proper : world.Proper) {loop : TaskId}
    (own : world.tasks.get? flush = some (.scheduledFlush name loop)) :
    (world.abort flush).MaySend name flush := by
  have used : flush < (world.abort flush).nextTask :=
    Nat.lt_of_lt_of_le (proper.numbered.lt_nextTask own) (proper.doneBy (.abort flush)).nextTask
  have drops : world.abort flush =
      (world.onQueue name fun queue => queue.closeFlush flush).finish flush .cancelled := by
    simp only [abort, own]
  obtain ⟨gone, cancelled⟩ := get?_finish
    (world.onQueue name fun queue => queue.closeFlush flush) flush .cancelled
  rw [drops] at used ⊢
  refine .inr ⟨used, gone, ?_⟩
  rintro ⟨outcome, found, _⟩
  cases cancelled.symm.trans found

/-- What a flush of the schedule does, or what is done to it. -/
theorem acted_maySend (proper : world.Proper) (here : world.queues.get? name = some queue)
    {loop : TaskId} (own : world.tasks.get? flush = some (.scheduledFlush name loop))
    (there : (world.step event).1.queues.get? name = some next)
    (acts : event.actor? = some flush) :
    (world.step event).1.MaySend name flush ∨ next.readyOffsets = [] := by
  have owns : world.flushOf? flush = some name := flushOf?_of_get? own
  have turns := ((proper.tidy name).sound queue here).turns
  have adopts : ∀ {step : FlushStep}, step.Follows queue flush →
      (world.step event).1 = world.adopt flush name step →
      (world.step event).1.MaySend name flush ∨ next.readyOffsets = [] := by
    intro step follows same
    have place : (world.step event).1.queues.get? name = some step.queue := by
      rw [same, (world.frame_adopt flush name step).1, Table.get?_set, if_pos rfl]
    rw [Option.some.inj (there.symm.trans place), same]
    exact adopt_maySend proper.numbered own follows
  cases event with
  | proceed task draw =>
      cases acts
      exact adopts (turns.proceedFlush_follows flush)
        (step_of_flushOf? here owns draw (.value ())).1
  | answer task answer =>
      cases acts
      exact adopts (turns.answerFlush_follows flush answer) (step_of_flushOf? here owns 0 answer).2
  | respond task answer =>
      cases acts
      simp only [step, respond, own]
      exact .inl (.inl ⟨loop, own⟩)
  | expire task =>
      cases acts
      have still : (world.step (.expire flush)).1 = world := by
        simp only [step, expire, own, ite_self]
      rw [still]
      exact .inl (.inl ⟨loop, own⟩)
  | abort task =>
      cases acts
      exact .inl (abort_maySend proper own)
  | _ => cases acts

/-- A flush that may send what is resolved goes on to do so, or leaves nothing to send. -/
theorem MaySend.step (maySend : world.MaySend name flush) (proper : world.Proper)
    (here : world.queues.get? name = some queue)
    (there : (world.step event).1.queues.get? name = some next) :
    (world.step event).1.MaySend name flush ∨ next.readyOffsets = [] := by
  have done := proper.doneBy event
  rcases maySend with ⟨loop, own⟩ | ⟨used, gone, unended⟩
  · by_cases acts : event.actor? = some flush
    · exact acted_maySend proper here own there acts
    · exact .inl (.inl ⟨loop, proper.undisturbed own nofun acts⟩)
  · obtain ⟨still, kept⟩ := done.ended flush used gone
    refine .inl (.inr ⟨Nat.lt_of_lt_of_le used done.nextTask, still, ?_⟩)
    rintro ⟨outcome, found, unfailed⟩
    rcases kept with same | erased
    · exact unended ⟨outcome, same.symm.trans found, unfailed⟩
    · exact nomatch erased.symm.trans found

/-! ### Steps -/

/-- No event misses a batch. -/
theorem Proper.alarmed_step (proper : world.Proper) (filed : world.Filed) (event : Event)
    (here : world.queues.get? name = some queue)
    (there : (world.step event).1.queues.get? name = some next) {size : Nat}
    (alarmed : queue.Alarmed size (world.MaySend name)) :
    next.Alarmed size ((world.step event).1.MaySend name) := by
  have sound := (proper.tidy name).sound queue here
  have carries : next.Alarmed size (world.MaySend name) →
      next.Alarmed size ((world.step event).1.MaySend name) := by
    refine fun kept => kept.excuse fun _ flush _ ready maySend => ?_
    exact (maySend.step proper here there).resolve_right fun none =>
      AckQueue.head?_pendings_of_readyOffsets none ready
  obtain ⟨told, after, found, _, step⟩ := proper.queueStep event here
  cases there.symm.trans found
  cases step with
  | takes takes => exact carries (takes.alarmed sound alarmed).2
  | resolves offset verdict => exact carries (alarmed.resolve sound.ordered offset verdict)
  | background changed unlaunched noted =>
      refine carries (alarmed.background changed (fun failures flush flushing entering => ?_)
        fun _ failures flush launched => absurd launched (unlaunched failures flush))
      exact filed.not_maySend (noted failures flush flushing entering)
  | @launches _ _ middle failures flush loop changed flushing absent launched =>
      -- Whatever is resolved, the new flush may send it.
      have eased : queue.Alarmed size fun _ => True := alarmed.excuse fun _ _ _ _ _ => trivial
      have launches : middle.Alarmed size fun _ => True :=
        eased.background changed (fun _ _ _ entering => nomatch flushing.symm.trans entering)
          fun _ _ _ _ => trivial
      refine (launches.openFlush flush).excuse fun others other same _ _ => ?_
      have awaits : middle.schedule = .flushing others other := same
      cases flushing.symm.trans awaits
      exact .inl ⟨loop, launched⟩
  | begins task ready absent =>
      rcases ready with rfl | rfl
      · exact carries (alarmed.openFlush task)
      · have closed : ({ queue with destroyed := true } : AckQueue).Alarmed size
            (world.MaySend name) := alarmed.of_same rfl rfl rfl
        exact carries (closed.stopSchedule.openFlush task)
  | flushes task acts follows =>
      rcases follows.acted with ⟨same, _⟩ | move
      · rw [same] at carries ⊢
        exact carries alarmed
      · exact carries (alarmed.move sound move follows.schedule)
  | leaves task => exact carries (alarmed.closeFlush task)

/-! ### New queues -/

/-- The settings under which an event makes a queue. -/
def madeIn (world : World) (name : QueueId) (event : Event) : Option Settings :=
  match world.queues.get? name, (world.step event).1.queues.get? name with
  | none, some _ => some world.live.current
  | _, _ => none

/-- The settings under which a queue was made in the course of events. -/
def madeUnder (name : QueueId) : World → List Event → Option Settings
  | _, [] => none
  | world, event :: rest =>
    (world.madeIn name event).or (madeUnder name (world.step event).1 rest)

/-- What an event makes is settled by the settings of the moment. -/
theorem madeIn_of_absent (absent : world.queues.get? name = none)
    (there : (world.step event).1.queues.get? name = some next) :
    world.madeIn name event = some world.live.current := by
  simp only [madeIn, absent, there]

/-- A new queue has no entries. -/
theorem alarmed_of_made {assignment : Assignment} {settings : Settings} {maySend : TaskId → Prop}
    (made : AckQueue.Made assignment settings queue) :
    queue.Alarmed (max settings.ackBatchSize.toNat 1) maySend := by
  cases made with
  | opened => exact .ofAssignment assignment settings
  | started loop =>
      have fresh : (AckQueue.ofAssignment assignment settings).Alarmed
          (max settings.ackBatchSize.toNat 1) maySend := .ofAssignment assignment settings
      exact fresh.startSchedule rfl loop

/-- From a state in which no batch is missed, a run misses none. -/
theorem Proper.alarmed (proper : world.Proper) (filed : world.Filed) (events : List Event)
    (earlier : Option Settings)
    (start : ∀ queue, world.queues.get? name = some queue → ∃ settings, earlier = some settings ∧
      queue.Alarmed (max settings.ackBatchSize.toNat 1) (world.MaySend name))
    (empty : world.queues.get? name = none → earlier = none) :
    ∀ queue, (world.run events).queues.get? name = some queue →
      ∃ settings, earlier.or (madeUnder name world events) = some settings ∧
        queue.Alarmed (max settings.ackBatchSize.toNat 1) ((world.run events).MaySend name) := by
  induction events generalizing world earlier with
  | nil =>
      intro queue here
      rw [madeUnder, Option.or_none]
      exact start queue here
  | cons event rest ih =>
      have done := proper.doneBy event
      rw [madeUnder, ← Option.or_assoc]
      refine ih (proper.step event) (done.filed filed)
        (earlier.or (world.madeIn name event)) ?_ ?_
      · intro next there
        cases here : world.queues.get? name with
        | none =>
            obtain ⟨⟨assignment, _, made⟩, _⟩ := proper.made event here there
            rw [empty here, madeIn_of_absent here there]
            exact ⟨_, rfl, alarmed_of_made made⟩
        | some queue =>
            obtain ⟨settings, made, alarmed⟩ := start queue here
            rw [made]
            exact ⟨settings, rfl, proper.alarmed_step filed event here there alarmed⟩
      · intro gone
        cases here : world.queues.get? name with
        | none =>
            rw [empty here]
            simp only [madeIn, here, gone, Option.or_none]
        | some queue =>
            obtain ⟨after, found, _⟩ := proper.stride event here
            exact absurd (found.symm.trans gone) (Option.some_ne_none after)

/-! ### Runs -/

/-- Settings under which two entries make a batch. -/
def inPairs : Settings :=
  { Settings.standard with ackBatchSize := 2 }

/-- Two messages are completed but come after one that is pending. The signal is raised, the flush
finds nothing to send, and the schedule waits again. -/
def heldBack : List Event :=
  let messages := ["1", "2", "3"].map ((default : Message).setKey .pullOffset ·)
  [.openQueue (.ofNames "s" "g" "p" "b" "c" .shared), .startQueue 0, .proceed 0 0,
    .receive 0 "s" (fun _ => true) none messages, .resolve 0 2 .complete, .resolve 0 3 .complete,
    .proceed 0 0, .proceed 1 0, .proceed 1 0, .proceed 0 0, .proceed 0 0]

variable (epoch : Nat) (settings : Settings) (events : List Event)

/-- **No wake-up is lost.** After every run, where the schedule of a queue waits for the signal or
the end of its interval, a wake-up that is stored is being delivered as well. Unless one is, fewer
entries are resolved than make a batch under the settings of the making of the queue, or the queue
is empty, or its first entry is pending. -/
theorem run_alarmed {due : Nat}
    (here : ((initial epoch settings).run events).queues.get? name = some queue)
    (idle : queue.schedule = .idle due) :
    (queue.signal.permit = true → queue.signal.listener = .notified) ∧
    ∃ made, madeUnder name (initial epoch settings) events = some made ∧
      (queue.signal.permit = false → queue.signal.listener ≠ .notified →
        queue.queued.countP (fun entry => !entry.state.isPending) < max made.ackBatchSize.toNat 1 ∨
          queue.queued = [] ∨
          ∃ first rest, queue.queued = first :: rest ∧ first.state = .pending) := by
  have filed : (initial epoch settings).Filed :=
    fun _ result found => absurd found.symm (Option.some_ne_none result)
  obtain ⟨made, found, alarmed⟩ := (proper_initial epoch settings).alarmed filed events none
    (fun queue found => absurd found.symm (Option.some_ne_none queue)) (fun _ => rfl) queue here
  refine ⟨fun stored => ?_, made, found, fun _ => alarmed.unnotified idle⟩
  refine (alarmed.heard (by rw [idle]; trivial)).resolve_right fun waits => ?_
  exact Bool.false_ne_true (waits.2.symm.trans stored)

/-- Two of two entries are resolved and no wake-up is left. It is the first entry that holds them
back. -/
theorem run_alarmed_heldBack : ∃ queue,
    ((initial 0 inPairs).run heldBack).queues.get? 0 = some queue ∧
      queue.schedule = .idle 1000 ∧ queue.signal = ⟨2, 2, false, .waiting⟩ ∧
      ∃ first rest, queue.queued = first :: rest ∧ first.state = .pending := by
  obtain ⟨queue, here, idle, signal, queued⟩ : ∃ queue,
      ((initial 0 inPairs).run heldBack).queues.get? 0 = some queue ∧
        queue.schedule = .idle 1000 ∧ queue.signal = ⟨2, 2, false, .waiting⟩ ∧
        queue.queued = [⟨1, .pending⟩, ⟨2, .completed⟩, ⟨3, .completed⟩] := ⟨_, rfl, rfl, rfl, rfl⟩
  have under : madeUnder 0 (initial 0 inPairs) heldBack = some inPairs := rfl
  obtain ⟨_, made, found, reached⟩ := run_alarmed 0 inPairs heldBack here idle
  cases under.symm.trans found
  refine ⟨queue, here, idle, signal, ?_⟩
  rcases reached (by rw [signal]) (by rw [signal]; exact nofun) with few | none | first
  · rw [queued] at few
    exact absurd few (by decide)
  · rw [queued] at none
    exact nomatch none
  · exact first

end World

end PullConsumer
