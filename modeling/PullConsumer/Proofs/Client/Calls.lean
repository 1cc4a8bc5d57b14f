import PullConsumer.Proofs.Client.Actors
import PullConsumer.Proofs.Client.Completeness
import PullConsumer.Proofs.Queue.Coverage

/-! # Who calls a collaborator

A task may call a collaborator when it goes on, and a flush also when it gets an answer. Flushes
acknowledge and return messages, pull cycles pull, hand-backs release locks and refreshes look
broker groups up; nothing else is called (`World.step_calls`). So every transmission of a client
stands in the account of the queue that is flushed (`World.run_called`).
-/

namespace PullConsumer

/-- Whether a call asks a broker for messages. -/
def Call.isPull : Call → Bool
  | .pull .. => true
  | _ => false

/-- Whether a call looks broker groups up anew. -/
def Call.isRefresh : Call → Bool
  | .refresh .. => true
  | _ => false

/-- The calls that a task may make when it goes on. -/
def Task.mayCall : Task → Call → Bool
  | .scheduledFlush .., call | .drain _ _ _ (some _) _, call => call.isTransmission
  | .pull _ _ _ _ none, call => call.isPull
  | .handBack _ _ (.draining _), call => call.isRelease
  | .refresh _ _ false, call => call.isRefresh
  | _, _ => false

/-- Only a task that runs a flush may make the calls of one. -/
theorem Task.flushOf?_of_mayCall {task : Task} {call : Call} (allowed : task.mayCall call = true)
    (transmits : call.isTransmission = true) : ∃ name, task.flushOf? = some name := by
  cases call with
  | pull | refresh | release => cases transmits
  | sendAck | sendBack =>
      unfold mayCall at allowed
      split at allowed
      · exact ⟨_, rfl⟩
      · exact ⟨_, rfl⟩
      all_goals cases allowed

/-- A task that runs a flush may acknowledge and return messages. -/
theorem Task.mayCall_of_flushOf? {task : Task} {name : QueueId} (runs : task.flushOf? = some name)
    (call : Call) : task.mayCall call = call.isTransmission := by
  cases task with
  | scheduledFlush => rfl
  | drain queue timeout final deadline parent =>
      cases deadline with
      | none => cases runs
      | some deadline => rfl
  | schedule | pull | handBack | refresh => cases runs

namespace World

variable {world before middle after : World} {name : QueueId} {task : TaskId}

/-- A change during which no calls are made but those allowed. -/
def Calls (allowed : TaskId → Call → Prop) (before after : World) : Prop :=
  ∃ account, before.Tells account after ∧
    ∀ task call, Mark.called task call ∈ account → allowed task call

/-- Whether a task may make a call during an event. -/
def MayCall (world : World) (event : Event) (task : TaskId) (call : Call) : Prop :=
  match event with
  | .proceed actor _ =>
    actor = task ∧ ∃ own, world.tasks.get? task = some own ∧ own.mayCall call = true
  | .answer actor _ =>
    actor = task ∧ (∃ name, world.flushOf? task = some name) ∧ call.isTransmission = true
  | _ => False

/-- A flush acknowledges and returns messages, and nothing else is called in one of its steps. -/
theorem FlushStep.calls {step : FlushStep} {queue : AckQueue} (follows : step.Follows queue task)
    {final : Bool} {other : TaskId} {call : Call} (called : Mark.called other call ∈
      Account.ofEffects (Change.effectsOf (adopting task name final step))) :
    other = task ∧ call.isTransmission = true := by
  have silent : Account.ofEffects
      (step.ended.toList.flatMap (abandonNotices step.queue final)) = [] := by
    cases step.ended <;> simp
  rw [effectsOf_adopting, Account.ofEffects_append, silent, List.append_nil] at called
  refine ⟨Option.some.inj (follows.about _ called), ?_⟩
  obtain ⟨phase, _, calls⟩ := follows.stride.calls called
  cases phase with
  | fresh | inLine | granted => exact nomatch calls
  | returning | acking =>
      cases calls
      rfl

/-- **Calls.** Whatever happens, a collaborator is called only by a task that goes on, or by a flush
that gets an answer, and only for what that task is there for. -/
theorem step_calls (proper : world.Proper) (event : Event) :
    Calls (world.MayCall event) world (world.step event).1 := by
  refine step_cases (Calls (world.MayCall event) world)
    ⟨[], .of_eq rfl, fun _ _ member => absurd member List.not_mem_nil⟩
    fun changes transition => ⟨_, world.tells_after changes, fun other call member => ?_⟩
  cases transition with
  | flushes draw there runs here =>
      have turns := ((proper.tidy _).sound _ here).turns
      obtain ⟨rfl, transmits⟩ := FlushStep.calls (turns.proceedFlush_follows _) member
      exact ⟨rfl, _, there, (Task.mayCall_of_flushOf? runs call).trans transmits⟩
  | answersFlush answer there runs here =>
      have turns := ((proper.tidy _).sound _ here).turns
      obtain ⟨rfl, transmits⟩ := FlushStep.calls (turns.answerFlush_follows _ answer) member
      exact ⟨rfl, ⟨_, (flushOf?_of_get? there).trans runs⟩, transmits⟩
  | pulls draw own | refreshes draw own =>
      obtain ⟨rfl, rfl⟩ : other = _ ∧ call = _ := by
        simpa [Change.effect?, Mark.ofEffect?] using member
      exact ⟨rfl, _, own, rfl⟩
  | concludes draw own filed present =>
      obtain ⟨_, rfl, rfl⟩ : _ ∧ other = _ ∧ call = _ := by
        simpa [Change.effect?, Mark.ofEffect?, apply_ite Account.ofEffects] using member
      exact ⟨rfl, _, own, rfl⟩
  | handles present handling =>
      cases handling <;> simp [Change.effect?, Mark.ofEffect?] at member
  | responds own present handling =>
      cases handling <;> simp [Change.effect?, Mark.ofEffect?] at member
  | relinquishes draw own present idle =>
      rcases idle with ⟨_, _, rfl⟩ | ⟨_, _, rfl⟩ <;> simp [Change.effect?] at member
  | _ => simp [Change.effect?, Mark.ofEffect?] at member

/-- Only tasks that run a flush acknowledge or return messages. -/
theorem MayCall.flushes {event : Event} {call : Call} (may : world.MayCall event task call)
    (transmits : call.isTransmission = true) : ∃ name, world.flushOf? task = some name := by
  cases event with
  | proceed =>
      obtain ⟨_, own, here, allowed⟩ := may
      rw [flushOf?_of_get? here]
      exact Task.flushOf?_of_mayCall allowed transmits
  | answer => exact may.2.1
  | _ => exact may.elim

/-! ### Runs -/

/-- What holds of each call during the event that makes it, and stays so when earlier events are put
in front, holds of all calls of a run. -/
theorem Proper.placed (Placed : World → List Event → TaskId → Call → Prop)
    (now : ∀ (world : World) event rest task call, world.MayCall event task call →
      Mark.called task call ∈ Account.ofEffects ((world.step event).1.since world) →
      Placed world (event :: rest) task call)
    (later : ∀ (world : World) event rest task call,
      Placed (world.step event).1 rest task call → Placed world (event :: rest) task call)
    (proper : world.Proper) (events : List Event) :
    ∃ told, world.Tells told (world.run events) ∧
      ∀ task call, Mark.called task call ∈ told → Placed world events task call := by
  induction events generalizing world with
  | nil => exact ⟨[], .of_eq rfl, fun _ _ member => absurd member List.not_mem_nil⟩
  | cons event rest ih =>
      obtain ⟨first, tells, allowed⟩ := step_calls proper event
      obtain ⟨second, tellsLater, placed⟩ := ih (proper.step event)
      refine ⟨first ++ second, tells.trans tellsLater, fun task call member => ?_⟩
      rcases List.mem_append.mp member with here | after
      · refine now world event rest task call (allowed task call here) ?_
        rw [tells.ofEffects_since]
        exact here
      · exact later world event rest task call (placed task call after)

/-- The transmissions of a run stand in the accounts of its queues. -/
theorem Proper.called (proper : world.Proper) (events : List Event) :
    ∃ told, world.Tells told (world.run events) ∧ ∀ task call, Mark.called task call ∈ told →
      call.isTransmission = true → ∃ name, Mark.called task call ∈ account name world events := by
  refine proper.placed (fun world events task call => call.isTransmission = true →
    ∃ name, Mark.called task call ∈ account name world events) ?_ ?_ events
  · intro world event rest task call may member transmits
    obtain ⟨name, owns⟩ := may.flushes transmits
    refine ⟨name, List.mem_append_left _ (List.mem_append_right _ ?_)⟩
    refine List.mem_filter.mpr ⟨member, ?_⟩
    rw [Mark.task?, Option.bind_some, owns]
    exact beq_self_eq_true _
  · intro world event rest task call placed transmits
    obtain ⟨name, found⟩ := placed transmits
    exact ⟨name, List.mem_append_right _ found⟩

/-- **No transmission goes unaccounted.** Every call of a run that acknowledges or returns messages
stands in the account of a queue. -/
theorem run_called (epoch : Nat) (settings : Settings) (events : List Event) {call : Call}
    (called : Effect.called task call ∈ ((initial epoch settings).run events).history)
    (transmits : call.isTransmission = true) :
    ∃ name, Mark.called task call ∈ account name (initial epoch settings) events := by
  obtain ⟨told, tells, placed⟩ := (proper_initial epoch settings).called events
  exact placed task call (tells.called rfl called) transmits

end World

end PullConsumer
