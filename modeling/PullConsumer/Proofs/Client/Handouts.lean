import PullConsumer.Proofs.Client.Actors
import PullConsumer.Proofs.Client.Completeness
import PullConsumer.Proofs.Queue.Closing

/-! # What is handed to the application

Messages reach the application as the reply to an event that takes a batch in, or as the result of a
pull cycle. No task but a pull cycle that gets its answer ends with messages
(`World.step_deliversNothing`), and what the answer to a pull delivers is what the queue of its
entry took in and accepted (`World.handle_delivers`).
-/

namespace PullConsumer

/-- The messages that a task hands to the application with its result. -/
def TaskResult.messages : TaskResult → List Delivery
  | .delivered deliveries => deliveries
  | _ => []

namespace World

variable {world before middle after : World} {task : TaskId} {name : QueueId}

/-! ### Results without messages -/

/-- A change during which no task ends with messages. -/
structure DeliversNothing (before after : World) : Prop where
  results : ∀ task deliveries, after.results.get? task = some (.delivered deliveries) →
    deliveries = [] ∨ before.results.get? task = some (.delivered deliveries)

namespace DeliversNothing

theorem of_same (results : after.results = before.results) : DeliversNothing before after :=
  ⟨fun _ _ ended => .inr (results ▸ ended)⟩

theorem refl (world : World) : DeliversNothing world world :=
  .of_same rfl

theorem trans (first : DeliversNothing before middle) (second : DeliversNothing middle after) :
    DeliversNothing before after := by
  refine ⟨fun task deliveries ended => ?_⟩
  rcases second.results task deliveries ended with empty | earlier
  · exact .inl empty
  · exact first.results task deliveries earlier

end DeliversNothing

end World

/-- A change that ends no task with messages. -/
def Change.DeliversNothing : Change → Prop
  | .finish _ result => result.messages = []
  | _ => True

/-- A flush hands no message to the application. -/
theorem messages_resultOf (ended : FlushEnd) : (World.resultOf ended).messages = [] := by
  cases ended <;> rfl

namespace World

variable {world : World} {task : TaskId} {name : QueueId}

/-- A change that ends no task with messages delivers nothing. -/
theorem deliversNothing_apply (world : World) {change : Change}
    (undelivered : change.DeliversNothing) :
    DeliversNothing world (world.apply change) := by
  cases change with
  | effect effect => exact .of_same (emit_rest world effect).1
  | spawn new => exact .of_same (spawn_rest world new).1
  | finish task result =>
      refine ⟨fun other deliveries ended => ?_⟩
      rw [apply, (finish_rest world task result).1, Table.get?_set] at ended
      split at ended
      · cases ended
        exact .inl undelivered
      · exact .inr ended
  | collect task =>
      refine ⟨fun other deliveries ended => ?_⟩
      rw [apply, Table.get?_erase] at ended
      split at ended
      · cases ended
      · exact .inr ended
  | setQueue | setEntry | setTask | makeQueue | makeEntry | dismiss | setRegistry | setLive
  | setRecorder | pass => exact .of_same rfl

/-- Changes that end no task with messages deliver nothing. -/
theorem deliversNothing_after (world : World) {changes : List Change}
    (undelivered : ∀ change ∈ changes, change.DeliversNothing) :
    DeliversNothing world (world.after changes) :=
  after_rel world DeliversNothing .refl .trans changes
    fun change member before => deliversNothing_apply before (undelivered change member)

/-! ### The answer to a pull -/

/-- What the intake of a batch does to the queues, and what it delivers. -/
theorem receive_delivers {queue : AckQueue} (here : world.queues.get? name = some queue)
    (subject : String) (accepts : Message → Bool) (hook : Option HookId)
    (messages : List Message) :
    (world.receive name subject accepts hook messages).1.queues =
        world.queues.set name (queue.receive subject accepts messages).queue ∧
      (world.receive name subject accepts hook messages).2 =
        (queue.receive subject accepts messages).accepted.map fun item =>
          ⟨item.message, name, item.offset, hook⟩ := by
  simp only [receive, here, frame_emitAll, setQueue, and_self]

/-- The answer to a pull leaves the queues alone and delivers nothing, or the queue of the entry
takes its messages in and delivers those that it accepted. -/
theorem Handling.delivers {entry : PullEntry} {request : PullRequest} {response : PullResponse}
    {hook : Option HookId} {changes : List Change} {deliveries : List Delivery}
    (handling : Handling world entry request response hook changes deliveries) :
    (world.after changes).queues = world.queues ∧ deliveries = [] ∨
      ∃ name queue subject accepts, entry.queue = some name ∧
        world.queues.get? name = some queue ∧
        (world.after changes).queues =
          world.queues.set name (queue.receive subject accepts response.messages).queue ∧
        deliveries = (queue.receive subject accepts response.messages).accepted.map fun item =>
          ⟨item.message, name, item.offset, hook⟩ := by
  cases handling with
  | rejected => exact .inl ⟨(frame_spawn ..).1, rfl⟩
  | unlocked | empty | dropped => exact .inl ⟨rfl, rfl⟩
  | missing =>
      left
      simp only [after_cons, after_nil, apply, frame_emit, and_self]
  | delivered accepted locked something serves here =>
      refine .inr ⟨_, _, request.consume.subject, _, serves, here, ?_, rfl⟩
      -- Counting and reporting leave the queues alone.
      simp only [after_cons, after_effects, apply, frame_emitAll, setQueue, frame_emit]

/-- The answer to a pull delivers nothing and leaves the queues as they are, or it delivers what the
queue of the entry takes in and accepts. -/
theorem handle_delivers (world : World) (entry : PullEntry) (request : PullRequest)
    (response : PullResponse) (hook : Option HookId) :
    (world.handle entry request response hook).1.queues = world.queues ∧
        (world.handle entry request response hook).2 = [] ∨
      ∃ name queue subject accepts, entry.queue = some name ∧
        world.queues.get? name = some queue ∧
        (world.handle entry request response hook).1.queues =
          world.queues.set name (queue.receive subject accepts response.messages).queue ∧
        (world.handle entry request response hook).2 =
          (queue.receive subject accepts response.messages).accepted.map fun item =>
            ⟨item.message, name, item.offset, hook⟩ := by
  obtain ⟨changes, deliveries, handling⟩ := exists_handling world entry request response hook
  rw [handling.eq]
  exact handling.delivers

/-- A closed queue lets no message through. -/
theorem handle_of_destroyed {entry : PullEntry} {queue : AckQueue}
    (serves : entry.queue = some name) (here : world.queues.get? name = some queue)
    (destroyed : queue.destroyed = true) (request : PullRequest) (response : PullResponse)
    (hook : Option HookId) : (world.handle entry request response hook).2 = [] := by
  rcases handle_delivers world entry request response hook with
    ⟨_, nothing⟩ | ⟨other, found, subject, accepts, served, there, _, delivered⟩
  · exact nothing
  · cases serves.symm.trans served
    cases here.symm.trans there
    rw [delivered, AckQueue.receive_of_destroyed destroyed]
    rfl

/-- The intake of an answer ends no task. -/
theorem handle_results (world : World) (entry : PullEntry) (request : PullRequest)
    (response : PullResponse) (hook : Option HookId) :
    (world.handle entry request response hook).1.results = world.results := by
  obtain ⟨changes, deliveries, handling⟩ := exists_handling world entry request response hook
  rw [handling.eq]
  cases handling with
  | rejected => exact (spawn_rest ..).1
  | unlocked | empty | dropped => rfl
  | missing | delivered =>
      simp only [after_cons, after_nil, after_effects, apply, emitAll_rest, setQueue, emit_rest]

/-- An event that answers a pull cycle in progress. -/
structure Responds (world : World) (task : TaskId) (entry : PullEntry) (request : PullRequest)
    (response : PullResponse) (hook : Option HookId) (event : Event) : Prop where
  event : event = .respond task (.value response)
  own : ∃ name size timeout deadline,
    world.tasks.get? task = some (.pull name size timeout hook (some (request, deadline))) ∧
      world.entries.get? name = some entry

/-- The answer to a pull cycle is taken in, and the cycle ends with what is delivered. -/
theorem Responds.delivers {entry : PullEntry} {request : PullRequest} {response : PullResponse}
    {hook : Option HookId} {event : Event}
    (responds : world.Responds task entry request response hook event) :
    (world.step event).1.queues =
        ((world.record (.responded task (.value response))).handle entry request response
          hook).1.queues ∧
      (world.step event).1.results = world.results.set task (.delivered
        ((world.record (.responded task (.value response))).handle entry request
          response hook).2) := by
  obtain ⟨rfl, name, size, timeout, deadline, own, present⟩ := responds
  have same : (world.record (.responded task (.value response))).results = world.results := rfl
  simp only [step, respond, own, present, frame_finish, finish_rest, handle_results, same, and_self]

/-! ### All events -/

/-- **Only pulls end with messages.** Whatever happens, no task ends with messages but a pull cycle
that gets its answer. -/
theorem step_deliversNothing (world : World) (event : Event) :
    DeliversNothing world (world.step event).1 ∨ ∃ task entry request response hook,
      world.Responds task entry request response hook event := by
  refine step_cases (fun after => DeliversNothing world after ∨ _) (.inl (.refl world))
    fun changes transition => ?_
  cases transition with
  | responds own present handling =>
      exact .inr ⟨_, _, _, _, _, rfl, _, _, _, _, own, present⟩
  | handles present handling =>
      left
      cases handling <;> exact deliversNothing_after world (by simp [Change.DeliversNothing])
  | relinquishes draw own present idle =>
      left
      rcases idle with ⟨_, _, rfl⟩ | ⟨_, _, rfl⟩ <;>
        exact deliversNothing_after world
          (by simp [Change.DeliversNothing, TaskResult.messages])
  | flushes | answersFlush | timesOut =>
      left
      exact deliversNothing_after world
        (by simp [Change.DeliversNothing, messages_resultOf])
  | answersRelease answer own | answersRefresh answer own =>
      left
      cases answer <;> exact deliversNothing_after world
        (by simp [Change.DeliversNothing, TaskResult.messages, answerEnd])
  | _ =>
      left
      exact deliversNothing_after world
        (by simp [Change.DeliversNothing, TaskResult.messages])

end World

end PullConsumer
