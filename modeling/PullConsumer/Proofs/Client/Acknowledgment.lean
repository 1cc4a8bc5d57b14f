import PullConsumer.Proofs.Client.Calls
import PullConsumer.Proofs.Queue.Coverage

/-! # What the broker is told

Along every run of a client: the acknowledgments that the broker accepts tile what a queue has
registered, every acknowledgment is about completed messages only, and a message that the queue has
refused is acknowledged exactly when it is jumped over.
-/

namespace PullConsumer

/-- An offset that was offered in vain: a message under it was refused, and none was registered. -/
def Account.Refused (account : Account) (offset : Int) : Prop :=
  (∃ message fault, Mark.offered message (.error fault) ∈ account ∧
    message.pullOffset = .ok offset) ∧ offset ∉ account.admitted

namespace World

/-- Of four messages under the offsets 1, 5, 3 and 7 the third is refused. The others are completed
and flushed. -/
def outOfOrder : List Event :=
  let messages := ["1", "5", "3", "7"].map ((default : Message).setKey .pullOffset ·)
  [.openQueue (.ofNames "s" "g" "p" "b" "c" .shared), .receive 0 "s" (fun _ => true) none messages,
    .resolve 0 1 .complete, .resolve 0 5 .complete, .resolve 0 7 .complete, .begin (.flush 0 100),
    .proceed 0 0, .proceed 0 0, .proceed 0 0, .answer 0 (.value ())]

variable (epoch : Nat) (settings : Settings) (events : List Event) (name : QueueId)

/-- **Accepted acknowledgments tile what was registered.** After every run, the accepted requests of
a queue cover adjacent blocks of its registered offsets from the first one on, the queue holds the
rest, and every request is made in the name of the assignment of the queue, which is the one that
the queue was opened for. No acknowledgment or return of the client is missing from the accounts of
its queues. -/
theorem run_tiled {queue : AckQueue}
    (here : ((initial epoch settings).run events).queues.get? name = some queue) :
    (∃ blocks, queue.Tiled (account name (initial epoch settings) events) blocks) ∧
    (∃ before event after, events = before ++ event :: after ∧
      ((initial epoch settings).run before).queues.get? name = none ∧
      event.opens? = some queue.assignment) ∧
    ∀ task call, Effect.called task call ∈ ((initial epoch settings).run events).history →
      call.isTransmission = true →
      ∃ other, Mark.called task call ∈ account other (initial epoch settings) events :=
  ⟨(run_recorded epoch settings events here).tiled, run_opened epoch settings events here,
    fun _ _ called transmits => run_called epoch settings events called transmits⟩

theorem run_tiled_outOfOrder : ∃ queue blocks,
    ((initial 0 .standard).run outOfOrder).queues.get? 0 = some queue ∧
      queue.Tiled (account 0 (initial 0 .standard) outOfOrder) blocks := by
  obtain ⟨queue, here⟩ : ∃ queue,
      ((initial 0 .standard).run outOfOrder).queues.get? 0 = some queue := ⟨_, rfl⟩
  obtain ⟨⟨blocks, tiled⟩, _, _⟩ := run_tiled 0 .standard outOfOrder 0 here
  exact ⟨queue, blocks, here, tiled⟩

/-- The one request that is accepted covers all three registered offsets. -/
example : (account 0 (initial 0 .standard) outOfOrder).admitted = [1, 5, 7] ∧
    (account 0 (initial 0 .standard) outOfOrder).accepted =
      [.ofRange (.ofNames "s" "g" "p" "b" "c" .shared) 1 7] :=
  ⟨rfl, rfl⟩

/-- **No unresolved message is acknowledged.** At every call, what is registered up to the end of
the request is completed, and the request begins with the oldest entry that is queued. What is not
completed is queued and above the window. -/
theorem run_completed :
    (∀ event task brokerGroup request,
      Mark.called task (.sendAck brokerGroup request) ∈
        ((initial epoch settings).run events).lines name event →
      ∃ queue, (((initial epoch settings).run events).step event).1.queues.get? name = some queue ∧
        request.first ≤ request.last ∧
        (queue.queued.map AckEntry.offset).head? = some request.first ∧
        ∀ entry ∈ queue.registered, entry.offset ≤ request.last → entry.state = .completed) ∧
    ∀ queue, ((initial epoch settings).run events).queues.get? name = some queue →
      queue.registered.map AckEntry.offset =
          (account name (initial epoch settings) events).admitted ∧
        ∀ entry ∈ queue.registered, entry.state ≠ .completed →
          entry ∈ queue.queued ∧ queue.window.min < entry.offset := by
  have proper := run_proper epoch settings events
  constructor
  · intro event task brokerGroup request called
    cases here : ((initial epoch settings).run events).queues.get? name with
    | none =>
        rw [proper.lines_of_absent event here] at called
        exact absurd called List.not_mem_nil
    | some queue =>
        obtain ⟨next, there, stride⟩ := proper.stride event here
        have sound := ((proper.tidy name).sound queue here).stride stride
        obtain ⟨phase, waits, calls⟩ := stride.calls called
        refine ⟨next, there, ?_⟩
        cases phase with
        | fresh | inLine | granted | returning => exact nomatch calls
        | acking ready =>
            cases calls
            exact sound.acking waits
  · intro queue here
    have recorded := run_recorded epoch settings events here
    exact ⟨recorded.tallied.admitted, fun entry member unfinished =>
      recorded.sound.queued_of_not_completed member unfinished⟩

/-- **Refused messages.** No request ever covers a refused offset if and only if none covers two
neighbours among the registered offsets with the refused one between them. -/
theorem run_refused {offset : Int}
    (refused : (account name (initial epoch settings) events).Refused offset) :
    (∀ request ∈ (account name (initial epoch settings) events).requests,
      ¬ request.Covers offset) ↔
    ∀ request ∈ (account name (initial epoch settings) events).requests, ∀ below above,
      [below, above] <:+: (account name (initial epoch settings) events).admitted →
      request.Covers below → request.Covers above → ¬ (below < offset ∧ offset < above) := by
  cases here : ((initial epoch settings).run events).queues.get? name with
  | none =>
      rw [run_account_of_absent epoch settings events here]
      exact ⟨fun _ _ sent => absurd sent List.not_mem_nil,
        fun _ _ sent => absurd sent List.not_mem_nil⟩
  | some queue =>
      have recorded := run_recorded epoch settings events here
      constructor
      · intro spared request sent below above neighbours first second between
        refine spared request sent ((recorded.covers_iff sent refused.2).mpr ?_)
        exact ⟨below, above, neighbours, first, second, between⟩
      · intro unjumped request sent covers
        obtain ⟨below, above, neighbours, first, second, between⟩ :=
          (recorded.covers_iff sent refused.2).mp covers
        exact unjumped request sent below above neighbours first second between

/-- The refused offset 3 lies between 1 and 5, which are acknowledged together. -/
theorem run_refused_outOfOrder :
    (account 0 (initial 0 .standard) outOfOrder).Refused 3 ∧
      ¬ ∀ request ∈ (account 0 (initial 0 .standard) outOfOrder).requests, ¬ request.Covers 3 := by
  have admitted : (account 0 (initial 0 .standard) outOfOrder).admitted = [1, 5, 7] := rfl
  have refused : (account 0 (initial 0 .standard) outOfOrder).Refused 3 := by
    refine ⟨⟨(default : Message).setKey .pullOffset "3", .offsetRegression 3 5, ?_, rfl⟩, ?_⟩
    · exact List.mem_of_getElem? (i := 2) rfl
    · rw [admitted]
      decide
  refine ⟨refused, fun spared => ?_⟩
  have apart := (run_refused 0 .standard outOfOrder 0 refused).mp spared
    (.ofRange (.ofNames "s" "g" "p" "b" "c" .shared) 1 7) (List.mem_of_getElem? (i := 0) rfl) 1 5
  rw [admitted] at apart
  exact apart ⟨[], [7], rfl⟩ ⟨by decide, by decide⟩ ⟨by decide, by decide⟩ ⟨by decide, by decide⟩

end World

end PullConsumer
