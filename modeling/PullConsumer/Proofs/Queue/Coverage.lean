import Mathlib.Data.List.Forall2
import PullConsumer.Proofs.Queue.Tiling
import PullConsumer.Proofs.Queue.Window

/-! # What acknowledgments cover

An ack request is about a range of numbers, and the queue about the offsets it has registered. On
registered offsets the two agree (`AckQueue.Recorded.tiled`); a number that was never registered is
covered if it lies between two neighbours that are (`AckQueue.Recorded.covers_iff`).
-/

namespace PullConsumer

/-- Whether an offset lies in the range of a request. -/
def AckRequest.Covers (request : AckRequest) (offset : Int) : Prop :=
  request.first ≤ offset ∧ offset ≤ request.last

instance (request : AckRequest) (offset : Int) : Decidable (request.Covers offset) :=
  inferInstanceAs (Decidable (_ ∧ _))

/-- A request in the name of an assignment: everything but the range is that of the assignment. -/
structure AckRequest.InNameOf (assignment : Assignment) (request : AckRequest) : Prop where
  subject : request.subject = assignment.subject
  group : request.group = assignment.group
  partition : request.partition = assignment.partition
  consumer : request.consumer = assignment.consumer
  strategy : request.strategy = assignment.strategy
  version : request.version = assignment.version
  broadcast : request.broadcast = assignment.broadcast

/-- A request about a block of the registered offsets: it goes from the first to the last of them,
and of all that is registered it covers the block and no more. -/
structure AckRequest.Spans (registered : List Int) (request : AckRequest) (block : List Int) :
    Prop where
  first : block.head? = some request.first
  last : block.getLast? = some request.last
  covered : registered.filter (fun offset => request.Covers offset) = block

namespace AckQueue

/-- The accepted requests are about adjacent blocks that make up a prefix of what was registered,
and the queue holds the rest. -/
structure Tiled (queue : AckQueue) (account : Account) (blocks : List (List Int)) : Prop where
  nonempty : ∀ block ∈ blocks, block ≠ []
  /-- The accepted requests in the order of the calls are about one block each. -/
  accepted : List.Forall₂ (AckRequest.Spans account.admitted) account.accepted blocks
  admitted : account.admitted = blocks.flatten ++ queue.queued.map AckEntry.offset
  increasing : account.admitted.Pairwise (· < ·)
  low : queue.window.min = (account.accepted.map AckRequest.last).getLastD (-1)
  /-- Every request is made in the name of the assignment, also one that is not accepted. -/
  attributed : ∀ request ∈ account.requests, request.InNameOf queue.assignment

/-- The request about a block is made in the name of the assignment of the queue. -/
theorem inNameOf_ackRequest (queue : AckQueue) (block : List Int) :
    (queue.ackRequest block).InNameOf queue.assignment :=
  ⟨rfl, rfl, rfl, rfl, rfl, rfl, rfl⟩

/-- The request about a block of increasing offsets spans it. -/
theorem spans_ackRequest (queue : AckQueue) {before block after : List Int}
    (sorted : (before ++ block ++ after).Pairwise (· < ·)) (nonempty : block ≠ []) :
    (queue.ackRequest block).Spans (before ++ block ++ after) block where
  first := by
    cases block with
    | nil => exact absurd rfl nonempty
    | cons first rest => rfl
  last := by
    have ends : (queue.ackRequest block).last = block.getLastD 0 := rfl
    rw [ends, List.getLastD_eq_getLast?, List.getLast?_eq_some_getLast nonempty]
    rfl
  covered := Increasing.filter_range sorted nonempty

/-- The last number of a list of blocks is the last number of its last block. -/
theorem getLastD_flatten {blocks : List (List Int)} (nonempty : ∀ block ∈ blocks, block ≠ []) :
    blocks.flatten.getLastD (-1) = (blocks.map fun block => block.getLastD 0).getLastD (-1) := by
  rcases List.eq_nil_or_concat blocks with rfl | ⟨earlier, last, rfl⟩
  · rfl
  · have filled := nonempty last (by simp)
    rw [List.concat_eq_append, List.flatten_append, List.flatten_singleton,
      Increasing.getLastD_append _ filled _ 0, List.map_append, List.map_singleton,
      List.getLastD_concat]

namespace Recorded

variable {queue : AckQueue} {account : Account}

/-- The registered offsets ascend in the account as they do in the queue. -/
theorem increasing (recorded : queue.Recorded account) : account.admitted.Pairwise (· < ·) := by
  rw [← recorded.tallied.admitted]
  exact recorded.sound.ordered.sorted

/-- **Accepted acknowledgments tile the queue.** -/
theorem tiled (recorded : queue.Recorded account) : ∃ blocks, queue.Tiled account blocks := by
  obtain ⟨blocks, nonempty, accepted, settled⟩ := recorded.tallied.accepted
  have admitted : account.admitted = blocks.flatten ++ queue.queued.map AckEntry.offset := by
    rw [← recorded.tallied.admitted, Ordered.map_offset_registered, settled]
  refine ⟨blocks, nonempty, ?_, admitted, recorded.increasing, ?_, ?_⟩
  · rw [accepted, List.forall₂_map_left_iff, List.forall₂_same]
    intro block member
    obtain ⟨before, after, split⟩ := List.append_of_mem member
    have placed : account.admitted =
        before.flatten ++ block ++ (after.flatten ++ queue.queued.map AckEntry.offset) := by
      rw [admitted, split, List.flatten_append, List.flatten_cons]
      simp only [List.append_assoc]
    have sorted := recorded.increasing
    rw [placed] at sorted ⊢
    exact queue.spans_ackRequest sorted (nonempty block member)
  · rw [recorded.sound.ordered.bottom, settled, getLastD_flatten nonempty, accepted, List.map_map]
    rfl
  · intro request member
    obtain ⟨block, _, _, rfl⟩ := recorded.tallied.requests request member
    exact queue.inNameOf_ackRequest block

/-- A number that was never registered is covered by a request if and only if it lies strictly
between two neighbours among the registered offsets that the request covers. -/
theorem covers_iff (recorded : queue.Recorded account) {request : AckRequest}
    (sent : request ∈ account.requests) {offset : Int} (unregistered : offset ∉ account.admitted) :
    request.Covers offset ↔ ∃ below above, [below, above] <:+: account.admitted ∧
      request.Covers below ∧ request.Covers above ∧ below < offset ∧ offset < above := by
  constructor
  · rintro ⟨low, high⟩
    obtain ⟨block, nonempty, inside, rfl⟩ := recorded.tallied.requests request sent
    rw [recorded.tallied.admitted] at inside
    have sorted : block.Pairwise (· < ·) := recorded.increasing.sublist inside.sublist
    have outside : offset ∉ block := fun member => unregistered (inside.subset member)
    obtain ⟨below, above, neighbours, under, beyond⟩ :=
      Increasing.exists_neighbours low high outside nonempty
    have first : (queue.ackRequest block).Covers below :=
      Increasing.headD_le_and_le_getLastD sorted (neighbours.subset (by simp))
    have second : (queue.ackRequest block).Covers above :=
      Increasing.headD_le_and_le_getLastD sorted (neighbours.subset (by simp))
    exact ⟨below, above, neighbours.trans inside, first, second, under, beyond⟩
  · rintro ⟨below, above, _, first, second, under, beyond⟩
    exact ⟨Int.le_trans first.1 (Int.le_of_lt under), Int.le_trans (Int.le_of_lt beyond) second.2⟩

end Recorded

/-! ### The moment of a call -/

/-- What a flush sends is what it waits for then. -/
theorem Transmission.calls {queue next : AckQueue} {task other : TaskId} {done rest : List Int}
    {account : Account} {call : Call} (sent : Transmission queue task done rest account next)
    (called : Mark.called other call ∈ account) : ∃ phase,
      next.flushes.get? other = some phase ∧ next.callOf? phase = some call := by
  cases sent with
  | sendBack passed current later message split kept nacked =>
      cases List.mem_singleton.mp called
      exact ⟨_, (Table.get?_set ..).trans (if_pos rfl), rfl⟩
  | sendAck kept =>
      cases List.mem_singleton.mp called
      exact ⟨_, (Table.get?_set ..).trans (if_pos rfl), rfl⟩

/-- After a step, a flush that made a call in it waits for the answer. -/
theorem Stride.calls {queue next : AckQueue} {account : Account} {task : TaskId} {call : Call}
    (stride : queue.Stride account next) (called : Mark.called task call ∈ account) : ∃ phase,
      next.flushes.get? task = some phase ∧ next.callOf? phase = some call := by
  cases stride with
  | silent moves silent => exact absurd called (silent task call)
  | opens moves task absent => exact absurd called List.not_mem_nil
  | move move =>
      cases move with
      | register message => exact nomatch List.mem_singleton.mp called
      | resolve | background | requestLock | leave => exact absurd called List.not_mem_nil
      | accepted | broken => exact nomatch List.mem_singleton.mp called
      | startRound task granted some sent => exact sent.calls called
      | returned task done current rest message returning sent =>
          rcases List.mem_cons.mp called with answered | later
          · exact nomatch answered
          · exact sent.calls later
      | cut task done current rest message fault returning nonempty =>
          rcases List.mem_cons.mp called with answered | later
          · exact nomatch answered
          · cases List.mem_singleton.mp later
            exact ⟨_, (Table.get?_set ..).trans (if_pos rfl), rfl⟩

namespace Sound

variable {queue : AckQueue}

/-- An ack request that a flush waits for begins with the oldest entry that is queued, and whatever
is registered up to its end is completed. -/
theorem acking (sound : queue.Sound) {task : TaskId} {ready : List Int}
    (here : queue.flushes.get? task = some (.acking ready)) :
    (queue.ackRequest ready).first ≤ (queue.ackRequest ready).last ∧
      (queue.queued.map AckEntry.offset).head? = some (queue.ackRequest ready).first ∧
      ∀ entry ∈ queue.registered, entry.offset ≤ (queue.ackRequest ready).last →
        entry.state = .completed := by
  obtain ⟨nonempty, front, completed⟩ := sound.fits task _ here
  have queued := sound.ordered.sorted_queued
  have bounds := Increasing.headD_le_and_le_getLastD (queued.sublist front.sublist)
    (Increasing.headD_mem nonempty)
  refine ⟨bounds.2, ?_, fun entry member low => ?_⟩
  · obtain ⟨rest, split⟩ := front
    cases ready with
    | nil => exact absurd rfl nonempty
    | cons first more =>
        rw [← split]
        rfl
  · rcases List.mem_append.mp member with before | waiting
    · exact sound.ordered.completed entry before
    · obtain ⟨rest, split⟩ := front
      have placed : entry.offset ∈ ready ++ rest := by
        rw [split]
        exact List.mem_map_of_mem waiting
      rcases List.mem_append.mp placed with now | later
      · have found := sound.ordered.stateOf?_of_mem member
        exact Option.some.inj (found.symm.trans (completed entry.offset now))
      · rw [← split] at queued
        have above := Increasing.lt_of_append queued (Increasing.getLastD_mem nonempty) later
        exact absurd low (Int.not_le.mpr above)

/-- What is not completed is queued, above all that was acknowledged. -/
theorem queued_of_not_completed (sound : queue.Sound) {entry : AckEntry}
    (member : entry ∈ queue.registered) (unfinished : entry.state ≠ .completed) :
    entry ∈ queue.queued ∧ queue.window.min < entry.offset := by
  rcases List.mem_append.mp member with before | waiting
  · exact absurd (sound.ordered.completed entry before) unfinished
  · exact ⟨waiting, sound.ordered.above waiting⟩

end Sound

end AckQueue

end PullConsumer
