import PullConsumer.Proofs.Client.Queues
import PullConsumer.Proofs.Queue.Closing
import PullConsumer.Proofs.Queue.Pace

/-! # What an event does to a queue

A stride says which moves a step may take a queue through. This module says which one an event takes
it through: `World.QueueStep` lists all that can happen to a queue, with what it means for the tasks
of the client, and `World.ScheduleStep` all that can happen to its schedule and to the task that
runs it. The changes of an event may leave a queue alone, move it, or make it (`World.Advance`).
-/

namespace PullConsumer

namespace AckQueue

/-- A queue takes in messages and completed entries, in any order. -/
inductive Takes (queue : AckQueue) : AckQueue → Prop
  | refl : Takes queue queue
  | register {middle : AckQueue} (takes : Takes queue middle) (message : Message) :
      Takes queue (middle.register message).1
  | complete {middle : AckQueue} (takes : Takes queue middle) (offset : Int) :
      Takes queue (middle.resolve offset .complete).1

theorem Takes.trans {queue middle next : AckQueue} (first : queue.Takes middle)
    (second : middle.Takes next) : queue.Takes next := by
  induction second with
  | refl => exact first
  | register _ message ih => exact ih.register message
  | complete _ offset ih => exact ih.complete offset

/-- The intake of a batch registers messages and completes the rejected ones. -/
theorem receive_takes (queue : AckQueue) (subject : String) (accepts : Message → Bool)
    (messages : List Message) : queue.Takes (queue.receive subject accepts messages).queue := by
  induction messages generalizing queue with
  | nil => exact .refl
  | cons message rest ih =>
      have registers := (Takes.refl : queue.Takes queue).register message
      unfold receive
      split
      · exact ih queue
      · rename_i offset admits
        have appends : (queue.register message).1 = queue.append offset := by
          simp only [register, admits]
        rw [appends] at registers
        split
        · exact registers.trans (ih (queue.append offset))
        · exact (registers.complete offset).trans (ih _)

/-- What a queue takes in leaves its schedule and its flushes alone. -/
theorem Takes.steady {queue next : AckQueue} (takes : queue.Takes next) :
    next.schedule = queue.schedule ∧ next.loop = queue.loop ∧ next.flushes = queue.flushes := by
  induction takes with
  | refl => exact ⟨rfl, rfl, rfl⟩
  | @register middle _ message ih =>
      obtain ⟨_, _, same⟩ := middle.register_rest message
      rw [same]
      exact ih
  | @complete middle _ offset ih =>
      obtain ⟨_, _, _, same, _⟩ := middle.resolve_rest offset .complete
      rw [same]
      exact ih

end AckQueue

/-- Whether an event may register messages, or complete entries other than by a verdict. -/
def Event.takesIn : Event → Bool
  | .register .. | .receive .. | .handle .. | .respond .. | .acknowledge .. => true
  | _ => false

/-- The assignment that an event may open a queue for. -/
def Event.opens? : Event → Option Assignment
  | .openQueue assignment | .openEntry assignment _ => some assignment
  | _ => none

/-- The task that takes the step. -/
def Event.actor? : Event → Option TaskId
  | .proceed task _ | .answer task _ | .respond task _ | .expire task | .abort task => some task
  | _ => none

namespace World

variable {world after : World} {name target : QueueId} {task : TaskId} {queue next : AckQueue}
  {event : Event} {changes : List Change} {told : Account}

/-! ### Queues -/

/-- Whether a task has ended with an outcome and without a failure. -/
def EndedWell (world : World) (task : TaskId) : Prop :=
  ∃ outcome, world.results.get? task = some (.outcome outcome) ∧
    ∀ entries, outcome ≠ .failed entries

/-- All that an event can do to a queue, with the lines about its flushes. -/
inductive QueueStep (world : World) (name : QueueId) (queue : AckQueue) :
    Event → World → Account → AckQueue → Prop
  /-- Messages are registered, and entries are completed. -/
  | takes {event : Event} {after : World} {next : AckQueue} (takes : queue.Takes next)
      (idle : event.takesIn = false → next = queue) :
      QueueStep world name queue event after [] next
  | resolves {after : World} (offset : Int) (verdict : Verdict) :
      QueueStep world name queue (.resolve name offset verdict) after []
        (queue.resolve offset verdict).1
  /-- The schedule goes on to anything but a flush. -/
  | background {event : Event} {after : World} {next : AckQueue} (changed : queue.Background next)
      (unlaunched : ∀ failures flush, next.schedule ≠ .flushing failures flush)
      (noted : ∀ failures flush, queue.schedule = .flushing failures flush →
        next.schedule = .entering 0 → world.EndedWell flush) :
      QueueStep world name queue event after [] next
  /-- The schedule launches a flush. -/
  | launches {event : Event} {after : World} {middle : AckQueue} {failures : Nat} {flush : TaskId}
      (loop : TaskId) (changed : queue.Background middle)
      (flushing : middle.schedule = .flushing failures flush)
      (absent : middle.flushes.get? flush = none)
      (launched : after.tasks.get? flush = some (.scheduledFlush name loop)) :
      QueueStep world name queue event after [] (middle.openFlush flush)
  /-- A bounded flush begins, after the teardown of the queue if it is final. -/
  | begins {event : Event} {after : World} {middle : AckQueue} (task : TaskId)
      (ready : middle = queue ∨ middle = { queue with destroyed := true }.stopSchedule)
      (absent : middle.flushes.get? task = none) :
      QueueStep world name queue event after [] (middle.openFlush task)
  /-- A flush goes on or gets an answer. -/
  | flushes {event : Event} {after : World} (task : TaskId) {step : FlushStep}
      (acts : event.actor? = some task) (follows : step.Follows queue task) :
      QueueStep world name queue event after (.ofEffects step.effects) step.queue
  /-- A flush is dropped. -/
  | leaves {event : Event} {after : World} (task : TaskId) :
      QueueStep world name queue event after [] (queue.closeFlush task).1

/-- An event that may register messages and complete entries does no more to the queue. -/
theorem QueueStep.takesIn (takes : queue.Takes next) (does : event.takesIn = true) :
    QueueStep world name queue event after [] next :=
  .takes takes fun idle => absurd (idle.symm.trans does) Bool.false_ne_true

/-! ### Schedules -/

/-- What the schedule of a queue does when its task goes on. -/
inductive Turn (world : World) (name : QueueId) (queue : AckQueue) (loop : TaskId) :
    Event → World → Schedule → Prop
  | rests (draw : Nat) {after : World} (entering : queue.schedule = .entering 0) :
      Turn world name queue loop (.proceed loop draw) after (.idle (world.clock + queue.interval))
  | backsOff (draw failures : Nat) {after : World}
      (entering : queue.schedule = .entering (failures + 1)) :
      Turn world name queue loop (.proceed loop draw) after
        (.backingOff (failures + 1) (world.clock + queue.backoff.delay failures draw))
  | hears (draw due : Nat) {after : World} (idle : queue.schedule = .idle due)
      (notified : queue.signal.listener = .notified)
      (launched : after.tasks.get? world.nextTask = some (.scheduledFlush name loop)) :
      Turn world name queue loop (.proceed loop draw) after (.flushing 0 world.nextTask)
  | elapses (due : Nat) {after : World} (idle : queue.schedule = .idle due)
      (late : due ≤ world.clock)
      (launched : after.tasks.get? world.nextTask = some (.scheduledFlush name loop)) :
      Turn world name queue loop (.expire loop) after (.flushing 0 world.nextTask)
  | retries (failures due : Nat) {after : World}
      (backingOff : queue.schedule = .backingOff failures due) (late : due ≤ world.clock)
      (launched : after.tasks.get? world.nextTask = some (.scheduledFlush name loop)) :
      Turn world name queue loop (.expire loop) after (.flushing failures world.nextTask)
  | notes (draw failures : Nat) (flush : TaskId) (ended : FlushEnd) {after : World}
      (flushing : queue.schedule = .flushing failures flush)
      (found : (world.results.get? flush).bind flushEnd? = some ended) :
      Turn world name queue loop (.proceed loop draw) after
        (.entering (if ended.fails then failures + 1 else 0))

/-- What ends a schedule from outside: its queue is let go of, its task is cancelled, or a teardown
begins. -/
inductive Stops (world : World) (name : QueueId) : Event → Prop
  | discard : Stops world name (.discardQueue name)
  | abort (loop : TaskId) (own : world.tasks.get? loop = some (.schedule name)) :
      Stops world name (.abort loop)
  | close (task : TaskId) (draw timeout : Nat) (parent : Option TaskId)
      (own : world.tasks.get? task = some (.drain name timeout true none parent)) :
      Stops world name (.proceed task draw)

/-- What an event does to the schedule of a queue and to the task that runs it. -/
inductive ScheduleStep (world : World) (name : QueueId) (queue : AckQueue) (event : Event)
    (after : World) (next : AckQueue) : Prop
  | stays (schedule : next.schedule = queue.schedule) (runs : next.loop = queue.loop)
      (tasks : ∀ loop, world.tasks.get? loop = some (.schedule name) →
        after.tasks.get? loop = some (.schedule name))
  | starts (absent : queue.schedule = .absent) (entering : next.schedule = .entering 0)
      (runs : next.loop = some world.nextTask)
      (own : after.tasks.get? world.nextTask = some (.schedule name))
  | turns (loop : TaskId) (own : world.tasks.get? loop = some (.schedule name))
      (turn : Turn world name queue loop event after next.schedule) (runs : next.loop = queue.loop)
      (tasks : ∀ loop, world.tasks.get? loop = some (.schedule name) →
        after.tasks.get? loop = some (.schedule name))
  | stops (outside : world.Stops name event) (schedule : next.schedule =
      if queue.schedule = .absent then .absent else .stopped)

/-! ### Changes of one queue -/

/-- The changes of an event move a queue that is there, and say something about its flushes. -/
structure Moved (world : World) (name : QueueId) (queue : AckQueue) (event : Event)
    (changes : List Change) (told : Account) (next : AckQueue) : Prop where
  there : (world.after changes).queues.get? name = some next
  tells : world.linesOf name (.ofEffects (Change.effectsOf changes)) = told
  stride : queue.Stride (world.offers name (world.handed name event) ++ told) next
  step : QueueStep world name queue event (world.after changes) told next
  schedule : ScheduleStep world name queue event (world.after changes) next
  tidy : (world.after changes).Tidy name

/-- What the changes of an event mean to a queue, whether it is there or not. -/
inductive Advance (world : World) (name : QueueId) (event : Event) (changes : List Change) : Prop
  /-- The queue and its tasks are left alone. -/
  | alone (leaves : ∀ change ∈ changes, change.LeavesAlone world name)
      (silent : world.linesOf name (.ofEffects (Change.effectsOf changes)) = [])
      (unhanded : world.offers name (world.handed name event) = [])
  | moves {queue next : AckQueue} {told : Account} (here : world.queues.get? name = some queue)
      (moved : Moved world name queue event changes told next)
  /-- The queue is made for the assignment of the event, and its schedule may have been started. -/
  | makes {assignment : Assignment} {next : AckQueue} (opens : event.opens? = some assignment)
      (absent : world.queues.get? name = none)
      (made : AckQueue.Made assignment world.live.current next)
      (there : (world.after changes).queues.get? name = some next)
      (tidy : (world.after changes).Tidy name)
      (led : next.schedule = .absent ∨ ∃ loop, next.loop = some loop ∧
        (world.after changes).tasks.get? loop = some (.schedule name))

theorem offers_nil (world : World) (name : QueueId) : world.offers name [] = [] := by
  unfold offers
  split <;> rfl

/-- An event that hands nothing to a queue offers it nothing. -/
theorem offers_of_unhanded (unhanded : world.handed name event = []) :
    world.offers name (world.handed name event) = [] := by
  rw [unhanded, offers_nil]

/-- Changes that leave a queue alone and tell of no call, while the queue is handed nothing. -/
theorem Advance.quiet (leaves : ∀ change ∈ changes, change.LeavesAlone world name)
    (silent : Account.ofEffects (Change.effectsOf changes) = [])
    (unhanded : world.handed name event = []) : Advance world name event changes := by
  refine .alone leaves ?_ (offers_of_unhanded unhanded)
  rw [silent]
  rfl

namespace Moved

/-- A queue that is left alone does not move. -/
theorem of_alone (numbered : world.Numbered) (tidy : world.Tidy name)
    (here : world.queues.get? name = some queue)
    (leaves : ∀ change ∈ changes, change.LeavesAlone world name)
    (silent : world.linesOf name (.ofEffects (Change.effectsOf changes)) = [])
    (unhanded : world.offers name (world.handed name event) = []) :
    Moved world name queue event changes [] queue where
  there := (queue_kept fun change member => (leaves change member).1).trans here
  tells := silent
  stride := by
    rw [unhanded]
    exact .still queue
  step := .takes .refl fun _ => rfl
  schedule := .stays rfl rfl fun _ own =>
    schedule_kept (fun change member => (leaves change member).2.2) numbered own
  tidy := tidy.left_alone numbered leaves

/-- A stride that opens and ends no flush, by changes that tell of no call. -/
theorem adjusts (numbered : world.Numbered) (tidy : world.Tidy name)
    (here : world.queues.get? name = some queue)
    (there : (world.after changes).queues.get? name = some next)
    (silent : Account.ofEffects (Change.effectsOf changes) = [])
    {offered : Account} (offers : world.offers name (world.handed name event) = offered)
    (stride : queue.Stride offered next) (flushes : next.flushes = queue.flushes)
    (spares : ∀ change ∈ changes, change.SparesTasks world name)
    (loop : ∀ task, next.loop = some task → queue.loop = some task ∨
      task < (world.after changes).nextTask ∧ (world.after changes).MayLoop name task)
    (step : QueueStep world name queue event (world.after changes) [] next)
    (schedule : ScheduleStep world name queue event (world.after changes) next) :
    Moved world name queue event changes [] next where
  there := there
  tells := by
    rw [silent]
    rfl
  stride := by
    rw [offers, List.append_nil]
    exact stride
  step := step
  schedule := schedule
  tidy := tidy.changed numbered here there ((tidy.sound queue here).stride stride) flushes spares
    loop

/-- A queue takes in what it is handed. -/
theorem takes (numbered : world.Numbered) (tidy : world.Tidy name)
    (here : world.queues.get? name = some queue)
    (there : (world.after changes).queues.get? name = some next)
    (silent : Account.ofEffects (Change.effectsOf changes) = [])
    {offered : Account} (offers : world.offers name (world.handed name event) = offered)
    (stride : queue.Stride offered next) (takes : queue.Takes next) (does : event.takesIn = true)
    (spares : ∀ change ∈ changes, change.SparesTasks world name)
    (scheduled : ∀ change ∈ changes, change.SparesSchedule world name) :
    Moved world name queue event changes [] next := by
  obtain ⟨schedule, loop, flushes⟩ := takes.steady
  refine .adjusts numbered tidy here there silent offers stride flushes spares
    (fun task loops => ?_)
    (.takesIn takes does) (.stays schedule loop fun _ own => schedule_kept scheduled numbered own)
  rw [loop] at loops
  exact .inl loops

end Moved

end World

end PullConsumer
