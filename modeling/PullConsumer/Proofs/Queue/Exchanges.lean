import PullConsumer.Proofs.Queue.Attempts

/-! # Exchanges of a queue with the broker

In one step a flush makes one call at most, and it does so only when it has just got the lock or an
answer to the call before (`AckQueue.Move.exchange`). What it acknowledges is the beginning of what
it read under the lock (`AckQueue.Proceeds.hand`, `AckQueue.Answers.hand`), and once that is
accepted it leaves the queue (`AckQueue.Sound.removes`).
-/

namespace PullConsumer

/-- The offsets that a flush has in hand while it waits for an answer. -/
def FlushPhase.hand? : FlushPhase → Option (List Int)
  | .returning done current rest _ => some (done ++ current :: rest)
  | .acking ready => some ready
  | _ => none

/-- A flush with entries in hand is sending. -/
theorem FlushPhase.isSending_of_hand? {phase : FlushPhase} {hand : List Int}
    (holds : phase.hand? = some hand) : phase.isSending = true := by
  cases phase with
  | fresh | inLine | granted => exact nomatch holds
  | returning | acking => rfl

namespace AckQueue

variable {queue next : AckQueue} {account marks : Account} {task : TaskId} {phase : FlushPhase}

/-! ### What a flush says -/

/-- The lines about a flush that a step leaves, given the exchanges so far, the latest first: a call
under a lock that was just got, or the answer to the latest call, with the next call if there is
one. -/
inductive ExchangeStep (queue : AckQueue) (latest : List Exchange) : Account → Prop
  | nothing : ExchangeStep queue latest []
  | calls {task : TaskId} (call : Call) (granted : queue.flushes.get? task = some .granted) :
      ExchangeStep queue latest [.called task call]
  | answered {task : TaskId} {call : Call} {earlier : List Exchange} (answer : Answer Unit)
      (next : Option Call) (waits : latest = ⟨task, call, none⟩ :: earlier) :
      ExchangeStep queue latest (.answered task answer :: next.toList.map (.called task))

/-- **One call at a time.** A move calls only where the call before is not under way any more. -/
theorem Move.exchange (move : queue.Move marks next) (about : ∀ mark ∈ marks, mark.task? ≠ none)
    (awaited : queue.Awaited account) : ExchangeStep queue account.latest marks := by
  cases move with
  | register message => exact absurd rfl (about _ (List.mem_singleton_self _))
  | resolve | background | requestLock | leave => exact .nothing
  | startRound task granted some sent =>
      cases sent with
      | sendBack | sendAck => exact .calls _ granted
  | returned task done current rest message returning sent =>
      obtain ⟨earlier, latest⟩ := awaited task _ _ returning rfl
      cases sent with
      | sendBack | sendAck => exact .answered _ (some _) latest
  | cut task done current rest message fault returning nonempty =>
      obtain ⟨earlier, latest⟩ := awaited task _ _ returning rfl
      exact .answered _ (some _) latest
  | accepted task ready acking =>
      obtain ⟨earlier, latest⟩ := awaited task _ _ acking rfl
      exact .answered _ none latest
  | broken task answer awaits unaccepted =>
      obtain ⟨phase, call, here, calls⟩ := exists_callOf?_of_awaitsAnswer awaits
      obtain ⟨earlier, latest⟩ := awaited task phase call here calls
      exact .answered _ none latest

/-! ### What a flush has in hand -/

/-- What a flush has in hand after it sent something is what it had to send. -/
theorem Transmission.hand {done rest hand : List Int}
    (sent : Transmission queue task done rest account next)
    (there : next.flushes.get? task = some phase) (holds : phase.hand? = some hand) :
    hand = done ++ rest := by
  cases sent with
  | sendBack passed current later message split kept nacked =>
      cases ((Table.get?_set ..).trans (if_pos rfl)).symm.trans there
      rw [← Option.some.inj holds, split, List.append_assoc]
  | sendAck kept =>
      cases ((Table.get?_set ..).trans (if_pos rfl)).symm.trans there
      exact (Option.some.inj holds).symm

/-- A flush takes in hand what is ready when it has got the lock, and nothing else by itself. -/
theorem Proceeds.hand {hand : List Int} (proceeds : queue.Proceeds task account next)
    (there : next.flushes.get? task = some phase) (holds : phase.hand? = some hand) :
    queue.flushes.get? task = some .granted ∧ hand = queue.readyOffsets ∨
      queue.flushes.get? task = some phase := by
  cases proceeds with
  | asks fresh waits =>
      cases ((Table.get?_set ..).trans (if_pos rfl)).symm.trans there
      rcases waits with rfl | rfl <;> cases holds
  | sends granted sent => exact .inl ⟨granted, sent.hand there holds⟩
  | leaves => exact nomatch (queue.closeFlush_gone task).symm.trans there
  | idle => exact .inr there

/-- An answer leaves a flush what it has in hand, or less of it. -/
theorem Answers.hand {answer : Answer Unit} {hand : List Int}
    (answers : queue.Answers task answer account next)
    (there : next.flushes.get? task = some phase) (holds : phase.hand? = some hand) :
    ∃ before held, queue.flushes.get? task = some before ∧ before.hand? = some held ∧
      hand <+: held := by
  cases answers with
  | resumes returning sent =>
      refine ⟨_, _, returning, rfl, ?_⟩
      rw [sent.hand there holds, List.append_assoc]
      exact List.prefix_rfl
  | cuts fault returning =>
      cases ((Table.get?_set ..).trans (if_pos rfl)).symm.trans there
      refine ⟨_, _, returning, rfl, ?_⟩
      rw [← Option.some.inj holds]
      exact List.prefix_append _ _
  | accepts =>
      cases ((Table.get?_set ..).trans (if_pos rfl)).symm.trans there
      exact nomatch holds
  | fails | panics => exact nomatch (queue.closeFlush_gone task).symm.trans there
  | idle => exact ⟨phase, hand, there, holds, List.prefix_rfl⟩

/-! ### What an acknowledgment removes -/

/-- The acceptance of a request takes a number of entries off the front of a queue. They are the
first of those that were read, and the ones that the request covers. -/
structure Removes (queue next : AckQueue) (request : AckRequest) (read : List Int) (count : Nat) :
    Prop where
  nonempty : 0 < count
  present : count ≤ queue.queued.length
  known : count ≤ read.length
  same : (queue.queued.take count).map AckEntry.offset = read.take count
  queued : next.queued = queue.queued.drop count
  settled : next.settled = queue.settled ++ queue.queued.take count
  covered : ∀ entry ∈ queue.queued, entry ∈ queue.queued.take count ↔ request.Covers entry.offset

/-- **What is accepted leaves the queue.** An acknowledgment in progress is about the first entries
of the queue, which are the first that its flush has read. -/
theorem Sound.removes (sound : queue.Sound) {ready read : List Int}
    (acking : queue.flushes.get? task = some (.acking ready)) (begins : ready <+: read) :
    queue.Removes (queue.answerFlush task (.value ())).queue (queue.ackRequest ready) read
      ready.length := by
  obtain ⟨nonempty, front, _⟩ := sound.fits task _ acking
  have taken : (queue.queued.take ready.length).map AckEntry.offset = ready := by
    rw [List.map_take]
    exact (List.prefix_iff_eq_take.mp front).symm
  have short : ready.length ≤ queue.queued.length := by
    have bound := front.length_le
    rw [List.length_map] at bound
    exact bound
  obtain ⟨_, _, rest⟩ := (queue.settle ready.length (ready.getLastD 0)).endRound_rest task
  have settles : (queue.answerFlush task (.value ())).queue =
      ((queue.settle ready.length (ready.getLastD 0)).endRound task).1 := by
    simp only [answerFlush, acking]
  refine ⟨List.length_pos_iff.mpr nonempty, short, begins.length_le, ?_, ?_, ?_,
    fun entry member => ?_⟩
  · rw [taken]
    exact List.prefix_iff_eq_take.mp begins
  · rw [settles, rest]
    rfl
  · rw [settles, rest]
    rfl
  · have sorted := sound.ordered.sorted_queued
    rw [← List.take_append_drop ready.length queue.queued, List.map_append, taken] at sorted
    constructor
    · intro first
      refine Increasing.headD_le_and_le_getLastD (List.pairwise_append.mp sorted).1 ?_
      rw [← taken]
      exact List.mem_map_of_mem first
    · intro covers
      rw [← List.take_append_drop ready.length queue.queued] at member
      refine (List.mem_append.mp member).resolve_right fun later => ?_
      have above := Increasing.lt_of_append sorted (Increasing.getLastD_mem nonempty)
        (List.mem_map_of_mem later)
      exact absurd covers.2 (Int.not_le.mpr above)

end AckQueue

end PullConsumer
