import PullConsumer.Proofs.Client.Deliveries
import PullConsumer.Proofs.Queue.Batches

/-! # Batches along a run

After every run a live queue takes in a batch message by message: what it registers advances past
all that it registered before, and the filter decides what of it is delivered (`World.Receives`).
Over a whole run the messages that a queue delivers have increasing offsets (`World.run_received`).
-/

namespace PullConsumer

/-- The message that a line of a batch delivers. -/
def Mark.delivery? (name : QueueId) (accepts : Message → Bool) (hook : Option HookId)
    (mark : Mark) : Option Delivery :=
  (mark.accepted? accepts).map fun item => ⟨item.message, name, item.offset, hook⟩

namespace World

variable {world : World} {name : QueueId} {queue : AckQueue} {event : Event} {held : List Delivery}

/-- Notices are written into the account, and wake-ups leave the account alone. The account is not
read. -/
theorem emitAll_of_notices {effects : List Effect} {notices : List Notice}
    (said : effects.filter (!·.isWake) = notices.map Effect.notice) (world : World) :
    ∃ ready, ∀ past, ({ world with history := past } : World).emitAll effects =
      { world with
        ready := ready
        history := (notices.map Effect.notice).reverse ++ past } := by
  induction effects generalizing world notices with
  | nil =>
      cases notices with
      | nil => exact ⟨world.ready, fun _ => rfl⟩
      | cons => cases said
  | cons effect rest ih =>
      by_cases wakes : effect.isWake = true
      · have woken : ∃ task, effect = .woken task := by
          cases effect with
          | woken task => exact ⟨task, rfl⟩
          | _ => cases wakes
        obtain ⟨task, rfl⟩ := woken
        obtain ⟨ready, same⟩ := ih said (world.wake task)
        refine ⟨ready, fun past => Eq.trans ?_ ((same past).trans ?_)⟩
        · refine congrArg (emitAll · rest) ?_
          change ({ world with history := past } : World).wake task = _
          unfold wake
          split <;> rfl
        · unfold wake
          split <;> rfl
      · rw [List.filter_cons_of_pos (by simpa using wakes)] at said
        cases notices with
        | nil => cases said
        | cons notice notices =>
            obtain ⟨rfl, later⟩ := List.cons.inj said
            obtain ⟨ready, same⟩ := ih later world
            refine ⟨ready, fun past => (same (.notice notice :: past)).trans ?_⟩
            rw [List.map_cons, List.reverse_cons, List.append_assoc]
            rfl

/-- What a queue does with a batch: it answers the messages one by one, appends an entry for each
that it registers, and delivers those that pass the filter; the others are reported in order.
Nothing else changes but the tasks that have a reason to go on. -/
structure Receives (world : World) (name : QueueId) (queue : AckQueue) (subject : String)
    (accepts : Message → Bool) (hook : Option HookId) (messages : List Message) : Prop where
  offered : Offers queue.window.max messages (queue.offers messages)
  takes : ∃ ready, world.step (.receive name subject accepts hook messages) =
    ({ world with
        queues := world.queues.set name (queue.extend accepts (queue.offers messages))
        ready := ready
        history := (((queue.offers messages).filterMap (Mark.notice? subject accepts)).map
          Effect.notice).reverse ++ world.history },
      .delivered ((queue.offers messages).filterMap (Mark.delivery? name accepts hook)))

/-- A live queue takes in every batch. -/
theorem receives (here : world.queues.get? name = some queue) (sound : queue.Sound)
    (live : queue.destroyed = false) (subject : String) (accepts : Message → Bool)
    (hook : Option HookId) (messages : List Message) :
    world.Receives name queue subject accepts hook messages where
  offered := AckQueue.offers_of_live live messages
  takes := by
    obtain ⟨ready, same⟩ := emitAll_of_notices (queue.receive_notices subject accepts messages)
      (world.setQueue name (queue.receive subject accepts messages).queue)
    have delivered : (queue.receive subject accepts messages).accepted.map
          (fun item => (⟨item.message, name, item.offset, hook⟩ : Delivery)) =
        (queue.offers messages).filterMap (Mark.delivery? name accepts hook) := by
      rw [queue.receive_accepted, List.map_filterMap]
      rfl
    refine ⟨ready, ?_⟩
    simp only [step, receive, here, delivered]
    rw [← sound.receive_queue]
    exact congrArg (·, _) (same world.history)

end World

/-! ### Deliveries in order -/

/-- The messages delivered out of a queue come in the order of their offsets, none of which is above
the window. -/
structure AckQueue.Ascends (queue : AckQueue) (held : List Delivery) : Prop where
  increasing : (held.map Delivery.offset).Pairwise (· < ·)
  below : ∀ delivery ∈ held, delivery.offset ≤ queue.window.max
  valid : ∀ delivery ∈ held, delivery.message.pullOffset = .ok delivery.offset

namespace AckQueue.Ascends

variable {queue next : AckQueue} {held : List Delivery}

/-- A queue ascends beyond what was delivered as long as its window does not shrink. -/
theorem grow (ascends : queue.Ascends held) (grows : queue.window.Grows next.window) :
    next.Ascends held where
  increasing := ascends.increasing
  below delivery member := Int.le_trans (ascends.below delivery member) grows.max
  valid := ascends.valid

/-- What a batch adds lies above all that was delivered. -/
theorem adds (ascends : queue.Ascends held) {accepted : List Accepted}
    (adds : queue.Adds next accepted) (name : QueueId) (hook : Option HookId) :
    next.Ascends (held ++ accepted.map fun item => ⟨item.message, name, item.offset, hook⟩) := by
  obtain ⟨above, increasing⟩ := List.pairwise_cons.mp adds.increasing
  refine ⟨?_, fun delivery member => ?_, fun delivery member => ?_⟩
  · rw [List.map_append, List.map_map, List.pairwise_append]
    refine ⟨ascends.increasing, increasing, fun lower old higher new => ?_⟩
    obtain ⟨delivery, member, rfl⟩ := List.mem_map.mp old
    exact Int.lt_of_le_of_lt (ascends.below delivery member) (above higher new)
  · rcases List.mem_append.mp member with old | new
    · exact Int.le_trans (ascends.below delivery old) adds.top
    · obtain ⟨item, accepts, rfl⟩ := List.mem_map.mp new
      exact adds.below item accepts
  · rcases List.mem_append.mp member with old | new
    · exact ascends.valid delivery old
    · obtain ⟨item, accepts, rfl⟩ := List.mem_map.mp new
      exact adds.valid item accepts

/-- No message is delivered twice. -/
theorem nodup (ascends : queue.Ascends held) : (held.map Delivery.message).Nodup := by
  rw [List.Nodup, List.pairwise_map]
  refine (List.pairwise_map.mp ascends.increasing).imp_of_mem fun first second less same => ?_
  have offsets := (ascends.valid _ first).symm.trans
    ((congrArg _ same).trans (ascends.valid _ second))
  exact absurd (Except.ok.inj offsets) (Int.ne_of_lt less)

end AckQueue.Ascends

namespace World

variable {world : World} {name : QueueId} {queue : AckQueue} {event : Event} {held : List Delivery}

/-- An event delivers out of a queue in the order of the offsets. -/
theorem Intake.ascends (intake : world.Intake event) (proper : world.Proper)
    (here : world.queues.get? name = some queue) (ascends : queue.Ascends held) :
    ∃ next, (world.step event).1.queues.get? name = some next ∧
      next.Ascends
        (held ++ (world.handedOut event).filter fun delivery => delivery.queue = name) := by
  cases intake with
  | idle _ nothing | silent _ nothing =>
      obtain ⟨next, there, stride⟩ := proper.stride event here
      rw [nothing, List.filter_nil, List.append_nil]
      exact ⟨next, there, ascends.grow stride.window⟩
  | @batch target other subject accepts hook messages found queues delivered =>
      rw [queues, delivered, Table.get?_set, List.filter_map]
      by_cases same : target = name
      · subst same
        cases here.symm.trans found
        refine ⟨_, if_pos rfl, ?_⟩
        rw [List.filter_eq_self.mpr fun _ _ => by simp]
        exact ascends.adds (queue.receive_adds subject accepts messages) target hook
      · refine ⟨queue, (if_neg same).trans here, ?_⟩
        rw [List.filter_eq_nil_iff.mpr fun _ _ => by simpa using same, List.map_nil,
          List.append_nil]
        exact ascends

variable (epoch : Nat) (settings : Settings) (events : List Event)

/-- A queue has delivered a message of offset 3 when it is offered two that advance, one of which
the filter rejects, among three that cannot be registered. -/
def offeredOne : List Event :=
  [.openQueue (.ofNames "s" "g" "p" "b" "c" .shared),
    .receive 0 "s" (fun _ => true) none [(default : Message).setKey .pullOffset "3"]]

/-- The offsets of the batch: missing, malformed, advancing, repeated, and rejected by the filter.
-/
def mixedBatch : List Message :=
  [default, (default : Message).setKey .pullOffset "x", (default : Message).setKey .pullOffset "5",
    (default : Message).setKey .pullOffset "5",
    ((default : Message).setKey .pullOffset "7").setKey .corruptData "true"]

/-- **A batch is registered, then filtered.** After every run a live queue registers of a batch
exactly the messages whose offsets advance, delivers those of them that pass the filter, completes
the others, and leaves all else as it was. Over the whole run each message is delivered out of a
queue at most once, in the order of the offsets. -/
theorem run_received (here : ((initial epoch settings).run events).queues.get? name = some queue) :
    (queue.destroyed = false → ∀ subject accepts hook messages,
        ((initial epoch settings).run events).Receives name queue subject accepts hook messages) ∧
      queue.Ascends ((deliveries (initial epoch settings) events).filter fun delivery =>
        delivery.queue = name) ∧
      (((deliveries (initial epoch settings) events).filter fun delivery =>
        delivery.queue = name).map Delivery.message).Nodup := by
  have ascends : queue.Ascends ((deliveries (initial epoch settings) events).filter fun delivery =>
      delivery.queue = name) :=
    (proper_initial epoch settings).handing (run_filed epoch settings []) [] events
      (fun _ => ⟨.nil, nofun, nofun⟩) (fun _ proper intake here => intake.ascends proper here)
      (fun _ found => nomatch found) (fun _ => rfl) queue here
  have sound := ((run_proper epoch settings events).tidy name).sound queue here
  exact ⟨fun live subject accepts hook messages =>
    receives here sound live subject accepts hook messages, ascends, ascends.nodup⟩

/-- Of the mixed batch one message is delivered and one is completed; three are refused. -/
theorem run_received_mixedBatch : ∃ queue,
    ((initial 0 .standard).run offeredOne).queues.get? 0 = some queue ∧
      (queue.offers mixedBatch).admitted = [5, 7] ∧
      (queue.extend (!·.isCorrupted) (queue.offers mixedBatch)).queued =
        [⟨3, .pending⟩, ⟨5, .pending⟩, ⟨7, .completed⟩] ∧
      (((initial 0 .standard).run offeredOne).step
        (.receive 0 "s" (!·.isCorrupted) (some 1) mixedBatch)).2.messages =
        [⟨(default : Message).setKey .pullOffset "5", 0, 5, some 1⟩] ∧
      queue.Ascends [⟨(default : Message).setKey .pullOffset "3", 0, 3, none⟩] := by
  obtain ⟨queue, here, live, admitted, queued, passed⟩ : ∃ queue,
      ((initial 0 .standard).run offeredOne).queues.get? 0 = some queue ∧
        queue.destroyed = false ∧ (queue.offers mixedBatch).admitted = [5, 7] ∧
        (queue.extend (!·.isCorrupted) (queue.offers mixedBatch)).queued =
          [⟨3, .pending⟩, ⟨5, .pending⟩, ⟨7, .completed⟩] ∧
        (queue.offers mixedBatch).filterMap (Mark.delivery? 0 (!·.isCorrupted) (some 1)) =
          [⟨(default : Message).setKey .pullOffset "5", 0, 5, some 1⟩] :=
    ⟨_, rfl, rfl, rfl, rfl, rfl⟩
  obtain ⟨receives, ascends, _⟩ := run_received 0 .standard offeredOne here
  obtain ⟨_, takes⟩ := (receives live "s" (!·.isCorrupted) (some 1) mixedBatch).takes
  refine ⟨queue, here, admitted, queued, ?_, ascends⟩
  rw [takes]
  exact passed

end World

end PullConsumer
