import PullConsumer.Proofs.Client.Deliveries
import PullConsumer.Proofs.Client.FlushTasks
import PullConsumer.Proofs.Queue.Progress

/-! # Draining a queue

Where the application has resolved all messages that it got, nothing is left pending. A flush whose
calls are accepted then comes to its end and leaves an empty queue, if nothing is registered in the
meantime (`World.run_unorphaned`).
-/

namespace PullConsumer.World

variable {world : World} {name : QueueId} {queue next : AckQueue} {task : TaskId} {event : Event}

/-- An event that registers nothing in a queue, and neither cuts off a flush nor fails a call of
it. -/
structure Unfailing (world : World) (name : QueueId) (task : TaskId) (event : Event) : Prop where
  unregistered : (world.lines name event).admitted = []
  uncut : ¬ world.Cuts task event
  accepted : ∀ answer, event = .answer task answer → answer = .value ()

/-- Along these events nothing is registered in a queue, and all calls of a flush succeed. -/
def AllUnfailing (name : QueueId) (task : TaskId) : World → List Event → Prop
  | _, [] => True
  | world, event :: rest =>
    world.Unfailing name task event ∧ AllUnfailing name task (world.step event).1 rest

/-- A flush has ended for want of entries: nothing is queued any more, and the window is closed. -/
structure Drained (world : World) (name : QueueId) (task : TaskId) : Prop where
  result : world.results.get? task = some (.outcome .drained)
  empty : ∃ queue, world.queues.get? name = some queue ∧ queue.queued = [] ∧
    queue.window.min = queue.window.max

/-- Along events during which nothing is registered and its calls succeed, a flush ends with an
empty queue if it ends, and it can always come to its end. -/
structure Drains (world : World) (name : QueueId) (task : TaskId) : Prop where
  drained : ∀ later last, AllUnfailing name task world (later ++ [last]) →
    (world.run later).flushOf? task = some name →
    (world.run (later ++ [last])).flushOf? task ≠ some name →
    (world.run (later ++ [last])).Drained name task
  ends : ∀ later, AllUnfailing name task world later →
    ∃ more, AllUnfailing name task world (later ++ more) ∧
    (world.run (later ++ more)).flushOf? task ≠ some name

theorem allUnfailing_append {first second : List Event} :
    AllUnfailing name task world (first ++ second) ↔
      AllUnfailing name task world first ∧ AllUnfailing name task (world.run first) second := by
  induction first generalizing world with
  | nil => exact ⟨fun course => ⟨trivial, course⟩, And.right⟩
  | cons event rest ih =>
      rw [List.cons_append, AllUnfailing, AllUnfailing, ih, and_assoc]
      rfl

/-! ### The end of a flush -/

/-- Where all entries are resolved, a flush that ends by itself leaves an empty queue. -/
theorem Acts.drained {after : World} (acts : Acts world name queue task event after)
    (proper : world.Proper) (here : world.queues.get? name = some queue)
    (resolved : queue.Resolved) (unfailing : world.Unfailing name task event)
    (owns : world.flushOf? task = some name) (ended : after.flushOf? task ≠ some name) :
    after.Drained name task := by
  have sound := (proper.tidy name).sound queue here
  cases acts with
  | proceeds draw =>
      obtain ⟨queues, tasks, _⟩ := frame_adopt world task name (queue.proceedFlush task)
      cases ends : (queue.proceedFlush task).ended with
      | none =>
          rw [ends, if_pos rfl] at tasks
          rw [flushOf?, tasks] at ended
          exact absurd owns ended
      | some result =>
          obtain ⟨empty, closes, rfl⟩ := resolved.proceedFlush_ended sound.ordered ends
          obtain ⟨_, _, rest⟩ := queue.closeFlush_rest task
          have queued : (queue.proceedFlush task).queue.queued = queue.queued := by
            rw [closes, rest]
          have window : (queue.proceedFlush task).queue.window = queue.window := by
            rw [closes, rest]
          refine ⟨?_, _, ?_, queued.trans empty, ?_⟩
          · rw [adopt_results world task name ends, Table.get?_set, if_pos rfl]
            rfl
          · rw [queues, Table.get?_set, if_pos rfl]
          · rw [window]
            exact sound.ordered.window_of_empty empty
  | answers answer =>
      obtain rfl := unfailing.accepted answer rfl
      obtain ⟨_, tasks, _⟩ := frame_adopt world task name (queue.answerFlush task (.value ()))
      rw [queue.answerFlush_accepted task, if_pos rfl] at tasks
      rw [flushOf?, tasks] at ended
      exact absurd owns ended
  | unheard | early => exact absurd owns ended
  | drops cuts => exact absurd cuts unfailing.uncut

/-- Along events that register nothing, all entries stay resolved. -/
theorem AllUnfailing.resolved {events : List Event} (course : AllUnfailing name task world events)
    (proper : world.Proper) (here : world.queues.get? name = some queue)
    (resolved : queue.Resolved) :
    ∃ next, (world.run events).queues.get? name = some next ∧ next.Resolved := by
  induction events generalizing world queue with
  | nil => exact ⟨queue, here, resolved⟩
  | cons event rest ih =>
      obtain ⟨next, there, stride⟩ := proper.stride event here
      exact ih course.2 (proper.step event) there
        (resolved.stride stride course.1.unregistered)

/-! ### The way to it -/

/-- Where all entries are resolved, some event ends a flush or brings it nearer to its end. -/
theorem Proper.advances (proper : world.Proper) (here : world.queues.get? name = some queue)
    (resolved : queue.Resolved) (owns : world.flushOf? task = some name) :
    ∃ event next, world.Unfailing name task event ∧
      (world.step event).1.queues.get? name = some next ∧
      ((world.step event).1.flushOf? task ≠ some name ∨
        (world.step event).1.flushOf? task = some name ∧ queue.Nearer next task) := by
  have sound := (proper.tidy name).sound queue here
  obtain ⟨phase, runs⟩ := Option.isSome_iff_exists.mp (((proper.tidy name).runs here task).mp owns)
  obtain ⟨other, step, takes, present, ends⟩ := sound.advances resolved runs
  have theirs := ((proper.tidy name).runs here other).mpr present
  obtain ⟨proceeds, answers⟩ := step_of_flushOf? here theirs 0 (.value ())
  -- Both kinds of steps are taken over by the client.
  have taken : ∀ event, event.actor? = some other → world.Unfailing name task event →
      (world.step event).1 = world.adopt other name step → ∃ event next,
        world.Unfailing name task event ∧ (world.step event).1.queues.get? name = some next ∧
        ((world.step event).1.flushOf? task ≠ some name ∨
          (world.step event).1.flushOf? task = some name ∧ queue.Nearer next task) := by
    intro event actor unfailing adopts
    obtain ⟨queues, tasks, _⟩ := frame_adopt world other name step
    refine ⟨event, step.queue, unfailing, ?_, ?_⟩
    · rw [adopts, queues, Table.get?_set, if_pos rfl]
    · rcases ends with ⟨rfl, ended⟩ | ⟨nearer, goes⟩
      · left
        rw [adopts, flushOf?, tasks, if_neg ended, Table.get?_erase, if_pos rfl]
        exact Option.some_ne_none name ∘ Eq.symm
      · refine .inr ⟨?_, nearer⟩
        by_cases same : other = task
        · rw [adopts, flushOf?, tasks, if_pos (goes same)]
          exact owns
        · exact proper.stays_step owns fun acts => same (Option.some.inj (actor.symm.trans acts))
  rcases takes with rfl | rfl
  · refine taken (.proceed other 0) rfl ⟨admitted_of_unoffered rfl, id, ?_⟩ proceeds
    rintro answer ⟨⟩
  · refine taken (.answer other (.value ())) rfl ⟨admitted_of_unoffered rfl, id, ?_⟩ answers
    intro answer same
    cases same
    rfl

/-- A flush can be brought to its end. -/
theorem Proper.exists_end {world : World} {queue : AckQueue} (proper : world.Proper)
    (here : world.queues.get? name = some queue) (resolved : queue.Resolved)
    (owns : world.flushOf? task = some name) :
    ∃ more, AllUnfailing name task world more ∧ (world.run more).flushOf? task ≠ some name := by
  obtain ⟨event, next, unfailing, there, ended | ⟨runs, nearer⟩⟩ :=
    proper.advances here resolved owns
  · exact ⟨[event], ⟨unfailing, trivial⟩, ended⟩
  · obtain ⟨after, found, stride⟩ := proper.stride event here
    cases there.symm.trans found
    obtain ⟨more, course, ended⟩ := (proper.step event).exists_end there
      (resolved.stride stride unfailing.unregistered) runs
    exact ⟨event :: more, ⟨unfailing, course⟩, ended⟩
termination_by (queue.queued.length, queue.ahead task, queue.stage)
decreasing_by
  cases nearer with
  | shorter less => exact .left _ _ less
  | turn length less => exact length ▸ .right _ (.left _ _ less)
  | stage length turn less => exact length ▸ .right _ (turn ▸ .right _ less)

/-- **A flush whose calls succeed drains a queue without pending entries.** -/
theorem Proper.drains (proper : world.Proper) (here : world.queues.get? name = some queue)
    (resolved : queue.Resolved) (task : TaskId) : world.Drains name task where
  drained later last course runs ended := by
    rw [allUnfailing_append] at course
    obtain ⟨next, there, clear⟩ := course.1.resolved proper here resolved
    rw [run_append] at ended ⊢
    by_cases actor : last.actor? = some task
    · have acts := (proper.run later).acts there runs actor
      exact acts.drained (proper.run later) there clear course.2.1 runs ended
    · exact absurd ((proper.run later).stays_step runs actor) ended
  ends later course := by
    by_cases runs : (world.run later).flushOf? task = some name
    · obtain ⟨next, there, clear⟩ := course.resolved proper here resolved
      obtain ⟨more, goes, ended⟩ := (proper.run later).exists_end there clear runs
      refine ⟨more, allUnfailing_append.mpr ⟨course, goes⟩, ?_⟩
      rw [run_append]
      exact ended
    · refine ⟨[], ?_, ?_⟩
      · rw [List.append_nil]
        exact course
      · rw [List.append_nil]
        exact runs

/-! ### Runs -/

/-- A batch is pulled of which one message is completed at once, since it was not decoded. -/
def pulledBatch : List Event :=
  let message := fun offset => (default : Message).setKey .pullOffset offset
  [.openEntry (.ofNames "s" "g" "p" "b" "c" .shared) (.ofNames "s" "g" "c"),
    .begin (.pull 0 10 100 none), .proceed 1 0,
    .respond 1 (.value ⟨.success, ⟨"b", 0⟩,
      [message "1", (message "2").setKey .corruptData "true", message "3"]⟩)]

/-- The messages that were delivered are resolved, and a flush begins. -/
def resolvedBatch : List Event :=
  pulledBatch ++ [.resolve 0 3 (.retry default), .resolve 0 1 .complete, .begin (.flush 0 100),
    .proceed 2 0]

variable (epoch : Nat) (settings : Settings) (events : List Event)

/-- **No pending entry is orphaned.** If a queue takes in messages by pulls only, each of its
pending entries belongs to exactly one of the messages that the application got. Where these are all
resolved, a flush whose calls succeed and during which nothing is registered drains the queue. -/
theorem run_unorphaned (unregistered : ∀ message, Event.register name message ∉ events)
    (here : ((initial epoch settings).run events).queues.get? name = some queue) :
    (∀ entry ∈ queue.queued, entry.state = .pending → ∃ delivery,
      (deliveries (initial epoch settings) events).filter (fun delivery =>
        delivery.queue = name ∧ delivery.offset = entry.offset) = [delivery] ∧
      delivery.message.pullOffset = .ok entry.offset) ∧
    ((∀ delivery ∈ deliveries (initial epoch settings) events, delivery.queue = name →
        ((initial epoch settings).run events).isPending name delivery.offset = false) →
      ∀ task, ((initial epoch settings).run events).Drains name task) := by
  have proper := run_proper epoch settings events
  have ordered := ((proper.tidy name).sound queue here).ordered
  have held := run_held epoch settings events unregistered here
  refine ⟨fun entry member pending => ?_, fun resolved =>
    proper.drains here ⟨fun offset pending => ?_⟩⟩
  · have found := ordered.stateOf?_of_mem (List.mem_append_right queue.settled member)
    obtain ⟨delivery, alone, valid⟩ := held.owned entry.offset (found.trans (congrArg some pending))
    refine ⟨delivery, ?_, valid⟩
    rw [List.filter_filter] at alone
    simpa only [Bool.decide_and, Bool.and_comm] using alone
  · obtain ⟨delivery, alone, _⟩ := held.owned offset pending
    obtain ⟨listed, same⟩ := List.mem_filter.mp (alone ▸ List.mem_singleton_self delivery)
    obtain ⟨got, theirs⟩ := List.mem_filter.mp listed
    have waits := (isPending_iff here offset).mpr pending
    rw [← of_decide_eq_true same, resolved delivery got (of_decide_eq_true theirs)] at waits
    exact nomatch waits

/-- One message is delivered for each of the two pending entries, and a flush drains the queue when
both are resolved. -/
theorem run_unorphaned_pulledBatch :
    (∃ queue, ((initial 0 .standard).run pulledBatch).queues.get? 0 = some queue ∧
      queue.queued = [⟨1, .pending⟩, ⟨2, .completed⟩, ⟨3, .pending⟩] ∧
      ∀ entry ∈ queue.queued, entry.state = .pending → ∃ delivery,
        (deliveries (initial 0 .standard) pulledBatch).filter (fun delivery =>
          delivery.queue = 0 ∧ delivery.offset = entry.offset) = [delivery] ∧
        delivery.message.pullOffset = .ok entry.offset) ∧
    ((initial 0 .standard).run resolvedBatch).flushOf? 2 = some 0 ∧
    ((initial 0 .standard).run resolvedBatch).Drains 0 2 := by
  have pulls : ∀ message, Event.register 0 message ∉ pulledBatch := by
    intro message
    simp [pulledBatch]
  have resolves : ∀ message, Event.register 0 message ∉ resolvedBatch := by
    intro message
    simp [resolvedBatch, pulledBatch]
  refine ⟨⟨_, rfl, rfl, (run_unorphaned 0 .standard pulledBatch pulls rfl).1⟩, rfl,
    (run_unorphaned 0 .standard resolvedBatch resolves rfl).2 ?_ 2⟩
  intro delivery member _
  have delivered : (deliveries (initial 0 .standard) resolvedBatch).map Delivery.offset =
    [1, 3] := rfl
  have listed : delivery.offset ∈ [1, 3] := delivered ▸ List.mem_map_of_mem member
  simp only [List.mem_cons, List.not_mem_nil, or_false] at listed
  rcases listed with same | same <;> rw [same] <;> rfl

end PullConsumer.World
