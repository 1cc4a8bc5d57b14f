import PullConsumer.Proofs.Queue.Rounds

/-! # The window of a queue

What is queued lies in the half-open interval between the two ends of the window
(`AckQueue.Bounded`). No move lowers an end (`AckQueue.Stride.window`), and a registration moves the
upper one to the offset of the entry that it appends, or changes nothing
(`AckQueue.registration`).
-/

namespace PullConsumer

/-- Neither end of the second window is below that of the first. -/
structure AckWindow.Grows (before after : AckWindow) : Prop where
  min : before.min ≤ after.min
  max : before.max ≤ after.max

namespace AckWindow.Grows

theorem refl (window : AckWindow) : window.Grows window :=
  ⟨Int.le_refl _, Int.le_refl _⟩

theorem trans {before middle after : AckWindow} (first : before.Grows middle)
    (second : middle.Grows after) : before.Grows after :=
  ⟨Int.le_trans first.min second.min, Int.le_trans first.max second.max⟩

end AckWindow.Grows

namespace AckQueue

/-- The window tells between which offsets the queue stands. -/
structure Bounded (queue : AckQueue) : Prop where
  increasing : (queue.queued.map AckEntry.offset).Pairwise (· < ·)
  nonnegative : ∀ entry ∈ queue.queued, 0 ≤ entry.offset
  inside : ∀ entry ∈ queue.queued,
    queue.window.min < entry.offset ∧ entry.offset ≤ queue.window.max
  last : ∀ entry, queue.queued.getLast? = some entry → entry.offset = queue.window.max
  empty : queue.queued = [] ↔ queue.window.min = queue.window.max
  low : -1 ≤ queue.window.min
  high : queue.window.min ≤ queue.window.max

variable {queue next : AckQueue} {account : Account}

namespace Ordered

/-- The lower end of the window is -1 at least. -/
theorem low (ordered : queue.Ordered) : -1 ≤ queue.window.min := by
  have increasing := ordered.increasing
  rw [map_offset_registered, ← List.cons_append] at increasing
  rw [ordered.bottom]
  exact Increasing.le_getLastD (List.pairwise_append.mp increasing).1 (-1) List.mem_cons_self

/-- Whatever is acknowledged stands below whatever is queued. -/
theorem above (ordered : queue.Ordered) {entry : AckEntry} (member : entry ∈ queue.queued) :
    queue.window.min < entry.offset := by
  have increasing := ordered.increasing
  rw [map_offset_registered, ← List.cons_append] at increasing
  rw [ordered.bottom]
  exact Increasing.lt_of_append increasing List.getLastD_mem_cons (List.mem_map_of_mem member)

/-- No queued entry is above the window. -/
theorem below (ordered : queue.Ordered) {entry : AckEntry} (member : entry ∈ queue.queued) :
    entry.offset ≤ queue.window.max := by
  rw [ordered.top]
  exact Increasing.le_getLastD ordered.increasing entry.offset
    (List.mem_cons_of_mem _ (List.mem_map_of_mem (List.mem_append_right _ member)))

/-- Without queued entries the last offset registered is the last one acknowledged. -/
theorem window_of_empty (ordered : queue.Ordered) (empty : queue.queued = []) :
    queue.window.min = queue.window.max := by
  rw [ordered.bottom, ordered.top, map_offset_registered, empty, List.map_nil, List.append_nil]

/-- The last entry queued is the last one registered. -/
theorem last (ordered : queue.Ordered) {entry : AckEntry}
    (last : queue.queued.getLast? = some entry) : entry.offset = queue.window.max := by
  rw [ordered.top, map_offset_registered, List.getLastD_eq_getLast?, List.getLast?_append,
    List.getLast?_map, last]
  rfl

/-- **The window bounds the queue.** -/
theorem bounded (ordered : queue.Ordered) : queue.Bounded where
  increasing := ordered.sorted_queued
  nonnegative entry member := by
    have low := ordered.low
    have above := ordered.above member
    omega
  inside entry member := ⟨ordered.above member, ordered.below member⟩
  last _ last := ordered.last last
  empty := by
    refine ⟨ordered.window_of_empty, fun same => ?_⟩
    refine List.eq_nil_iff_forall_not_mem.mpr fun entry member => ?_
    have above := ordered.above member
    have below := ordered.below member
    omega
  low := ordered.low
  high := by
    cases queued : queue.queued with
    | nil => exact Int.le_of_eq (ordered.window_of_empty queued)
    | cons first rest =>
        have member : first ∈ queue.queued := by
          rw [queued]
          exact List.mem_cons_self
        exact Int.le_trans (Int.le_of_lt (ordered.above member)) (ordered.below member)

end Ordered

/-! ### Registrations -/

/-- What a registration answers and leaves behind: a refused message leaves the queue as it was, and
an accepted one appends a pending entry under its offset, which becomes the upper end of the
window. -/
inductive Registration (queue : AckQueue) (message : Message) : Except Fault Int → AckQueue → Prop
  /-- The queue is closed, or the message has no valid offset above the window. -/
  | refused (fault : Fault)
      (cause : queue.destroyed = true ∨
        ∀ offset, message.pullOffset = .ok offset → offset ≤ queue.window.max) :
      Registration queue message (.error fault) queue
  | accepted (offset : Int) (live : queue.destroyed = false)
      (valid : message.pullOffset = .ok offset) (above : queue.window.max < offset) :
      Registration queue message (.ok offset)
        { queue with
          queued := queue.queued ++ [⟨offset, .pending⟩]
          window := ⟨queue.window.min, offset⟩ }

/-- What a registration does is one of the cases of `Registration`. -/
theorem registration (queue : AckQueue) (message : Message) :
    queue.Registration message (queue.register message).2 (queue.register message).1 := by
  cases admits : queue.admits message with
  | error fault =>
      have refuses : queue.register message = (queue, .error fault) := by
        simp only [register, admits]
      rw [refuses]
      refine .refused fault ?_
      cases destroyed : queue.destroyed with
      | true => exact .inl rfl
      | false =>
          refine .inr fun offset valid => Int.not_lt.mp fun above => ?_
          have admitted := (queue.admits_eq_ok_iff message offset).mpr ⟨destroyed, valid, above⟩
          cases admits.symm.trans admitted
  | ok offset =>
      have accepts : queue.register message = (queue.append offset, .ok offset) := by
        simp only [register, admits]
      obtain ⟨live, valid, above⟩ := (queue.admits_eq_ok_iff message offset).mp admits
      rw [accepts]
      exact .accepted offset live valid above

/-- A registration lets the window grow, if it changes it. -/
theorem Registration.window {message : Message} {result : Except Fault Int}
    (registration : queue.Registration message result next) : queue.window.Grows next.window := by
  cases registration with
  | refused fault cause => exact .refl _
  | accepted offset live valid above => exact ⟨Int.le_refl _, Int.le_of_lt above⟩

/-! ### Moves -/

/-- No move lowers an end of the window. -/
theorem Move.window (move : Move queue account next) : queue.window.Grows next.window := by
  cases move.revises with
  | kept settled queued window | returns offset settled queued window =>
      rw [window]
      exact .refl _
  | registers message same =>
      rw [same]
      exact (queue.registration message).window
  | resolves offset verdict same =>
      obtain ⟨_, _, _, resolved, _⟩ := queue.resolve_rest offset verdict
      rw [same, resolved]
      exact .refl _
  | settles entries last settled queued window =>
      rw [window]
      exact ⟨Int.le_max_left _ _, Int.le_refl _⟩

/-- Over a stride the window does not go back. -/
theorem Stride.window (stride : Stride queue account next) : queue.window.Grows next.window :=
  stride.preserves (motive := (queue.window.Grows ·.window))
    (fun move grows => grows.trans move.window) (fun _ grows => grows) (.refl _)

end AckQueue

end PullConsumer
