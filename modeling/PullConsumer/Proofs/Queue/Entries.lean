import PullConsumer.Proofs.Queue.Move

/-! # The entries of a queue under its moves

Which entries a queue holds and in what state. A registration appends one offset to the registered
ones and nothing else changes them (`AckQueue.Move.registered`); a state that is no longer pending
is final, but for a failed message that has come back to the broker.
-/

namespace PullConsumer

namespace AckEntry

variable (offset other : Int) (entries more : List AckEntry)

/-- The first entry under an offset counts, wherever the list is split. -/
theorem stateAt?_append :
    stateAt? offset (entries ++ more) = (stateAt? offset entries).or (stateAt? offset more) := by
  unfold stateAt?
  rw [List.find?_append, Option.map_or]

/-- Among entries of distinct offsets every entry is found under its own. -/
theorem stateAt?_of_mem {entries : List AckEntry} {entry : AckEntry}
    (sorted : (entries.map AckEntry.offset).Pairwise (· < ·)) (member : entry ∈ entries) :
    stateAt? entry.offset entries = some entry.state := by
  induction entries with
  | nil => exact absurd member List.not_mem_nil
  | cons first rest ih =>
      rw [List.map_cons, List.pairwise_cons] at sorted
      unfold stateAt?
      rcases List.mem_cons.mp member with rfl | later
      · rw [List.find?_cons_of_pos (by simp)]
        rfl
      · have below : first.offset < entry.offset :=
          sorted.1 entry.offset (List.mem_map_of_mem later)
        rw [List.find?_cons_of_neg (by simpa using Int.ne_of_lt below)]
        exact ih sorted.2 later

/-- A change of one offset changes the state of that offset alone. -/
theorem stateAt?_changeAt (change : AckEntry → AckEntry) (move : AckState → AckState)
    (offsets : ∀ entry, (change entry).offset = entry.offset)
    (states : ∀ entry, (change entry).state = move entry.state) :
    stateAt? other (changeAt offset change entries) =
      if other = offset then (stateAt? other entries).map move else stateAt? other entries := by
  have same : ∀ entry : AckEntry,
      (if entry.offset = offset then change entry else entry).offset = entry.offset := by
    intro entry
    split
    · exact offsets entry
    · rfl
  unfold stateAt? changeAt
  rw [List.find?_map]
  have keyed : (fun entry : AckEntry => decide (entry.offset = other)) ∘
      (fun entry => if entry.offset = offset then change entry else entry) =
        fun entry => decide (entry.offset = other) := by
    funext entry
    simp only [Function.comp, same]
  rw [keyed, Option.map_map]
  cases found : entries.find? fun entry => decide (entry.offset = other) with
  | none => simp
  | some entry =>
      have here : entry.offset = other := by simpa using List.find?_some found
      simp only [Option.map_some, Function.comp]
      by_cases hit : other = offset
      · rw [if_pos (here.trans hit), if_pos hit, states]
      · rw [if_neg (fun keyed => hit (here.symm.trans keyed)), if_neg hit]

end AckEntry

namespace AckQueue

variable (queue : AckQueue)

/-! ### What flushes leave alone -/

/-- To leave the lock concerns the lock and the flushes only. -/
theorem leaveLock_rest (task : TaskId) :
    ∃ lock flushes, (queue.leaveLock task).1 =
      { queue with lock := lock, flushes := flushes } := by
  unfold leaveLock
  simp only
  split
  · split <;> exact ⟨_, _, rfl⟩
  · exact ⟨_, _, rfl⟩

/-- The end of a flush concerns the lock and the flushes only. -/
theorem closeFlush_rest (task : TaskId) :
    ∃ lock flushes, (queue.closeFlush task).1 =
      { queue with lock := lock, flushes := flushes } := by
  obtain ⟨lock, flushes, left⟩ := queue.leaveLock_rest task
  refine ⟨lock, flushes.erase task, ?_⟩
  simp only [closeFlush, left]

/-- The end of a round concerns the lock and the flushes only. -/
theorem endRound_rest (task : TaskId) :
    ∃ lock flushes, (queue.endRound task).1 =
      { queue with lock := lock, flushes := flushes } := by
  obtain ⟨lock, flushes, left⟩ := queue.leaveLock_rest task
  refine ⟨lock, flushes.set task .fresh, ?_⟩
  simp only [endRound, setPhase, left]

/-- To ask for the lock concerns the lock and the flushes only. -/
theorem requestLock_rest {queue : AckQueue} {task : TaskId}
    (fresh : queue.flushes.get? task = some .fresh) :
    ∃ lock flushes, (queue.proceedFlush task).queue =
      { queue with lock := lock, flushes := flushes } := by
  simp only [proceedFlush, fresh]
  exact ⟨_, _, rfl⟩

/-- A transmission concerns the flushes only. -/
theorem Transmission.rest {queue next : AckQueue} {task : TaskId} {done rest : List Int}
    {account : Account} (sent : Transmission queue task done rest account next) :
    ∃ flushes, next = { queue with flushes := flushes } := by
  cases sent with
  | sendBack passed current later message split kept nacked => exact ⟨_, rfl⟩
  | sendAck kept => exact ⟨_, rfl⟩

/-! ### The registered offsets -/

/-- A message is admitted by a live queue if its offset is above the window. -/
theorem admits_eq_ok_iff (message : Message) (offset : Int) :
    queue.admits message = .ok offset ↔
      queue.destroyed = false ∧ message.pullOffset = .ok offset ∧ queue.window.max < offset := by
  unfold admits
  cases queue.destroyed with
  | true => simp
  | false =>
      cases message.pullOffset with
      | error cause => simp
      | ok place =>
          by_cases low : place ≤ queue.window.max
          · simp only [low, if_true, Bool.false_eq_true, if_false, reduceCtorEq, false_iff]
            rintro ⟨_, same, above⟩
            cases same
            omega
          · simp only [low, Bool.false_eq_true, if_false, true_and, Except.ok.injEq]
            constructor
            · rintro rfl
              exact ⟨rfl, Int.not_le.mp low⟩
            · exact And.left

/-- The entries are those that are settled, followed by those that are queued. -/
theorem registered_congr {queue next : AckQueue} (settled : next.settled = queue.settled)
    (queued : next.queued = queue.queued) : next.registered = queue.registered := by
  rw [registered, registered, settled, queued]

/-- A change of the entry under an offset changes it wherever it is. -/
theorem registered_changeEntry (offset : Int) (change : AckEntry → AckEntry) :
    (queue.changeEntry offset change).registered =
      AckEntry.changeAt offset change queue.registered :=
  List.map_append.symm

theorem map_offset_registered_changeEntry (offset : Int) (change : AckEntry → AckEntry)
    (kept : ∀ entry, (change entry).offset = entry.offset) :
    (queue.changeEntry offset change).registered.map AckEntry.offset =
      queue.registered.map AckEntry.offset := by
  rw [registered_changeEntry]
  exact AckEntry.map_offset_changeAt offset change kept queue.registered

theorem map_offset_registered_resolve (offset : Int) (verdict : Verdict) :
    (queue.resolve offset verdict).1.registered.map AckEntry.offset =
      queue.registered.map AckEntry.offset := by
  unfold resolve
  split
  · exact queue.map_offset_registered_changeEntry offset (·.resolve verdict)
      fun entry => entry.offset_resolve verdict
  · rfl

theorem map_offset_queued_resolve (offset : Int) (verdict : Verdict) :
    (queue.resolve offset verdict).1.queued.map AckEntry.offset =
      queue.queued.map AckEntry.offset := by
  unfold resolve
  split
  · exact AckEntry.map_offset_changeAt offset (·.resolve verdict)
      (fun entry => entry.offset_resolve verdict) queue.queued
  · rfl

/-- An entry that is settled is still one of the entries. -/
theorem registered_settle (entries : Nat) (last : Int) :
    (queue.settle entries last).registered = queue.registered := by
  unfold registered settle
  rw [List.append_assoc, List.take_append_drop]

/-- A message that is appended is the latest entry. -/
theorem registered_append (offset : Int) :
    (queue.append offset).registered = queue.registered ++ [.fresh offset] :=
  (List.append_assoc _ _ _).symm

/-- The answers of a flush's call admit nothing. -/
theorem Transmission.admitted {queue next : AckQueue} {task : TaskId} {done rest : List Int}
    {account : Account} (sent : Transmission queue task done rest account next) :
    account.admitted = [] := by
  cases sent with
  | sendBack passed current later message split kept nacked => rfl
  | sendAck kept => rfl

/-- **The registered offsets are the admitted ones.** Every move adds to the registered offsets
what its lines admit, and changes nothing else about them. -/
theorem Move.registered {queue next : AckQueue} {account : Account}
    (move : Move queue account next) :
    next.registered.map AckEntry.offset =
      queue.registered.map AckEntry.offset ++ account.admitted := by
  cases move with
  | register message =>
      cases admits : queue.admits message with
      | error fault =>
          simp only [AckQueue.register, admits]
          exact (List.append_nil _).symm
      | ok offset =>
          simp only [AckQueue.register, admits, registered_append, List.map_append]
          rfl
  | resolve offset verdict =>
      rw [map_offset_registered_resolve]
      exact (List.append_nil _).symm
  | background changed =>
      obtain ⟨_, _, _, _, rfl⟩ := changed.rest
      exact (List.append_nil _).symm
  | requestLock task fresh =>
      obtain ⟨_, _, same⟩ := requestLock_rest fresh
      rw [same]
      exact (List.append_nil _).symm
  | startRound task granted some sent =>
      rw [sent.admitted, List.append_nil]
      obtain ⟨_, rfl⟩ := sent.rest
      rfl
  | @returned task done current rest message marks _ returning sent =>
      have lines : Account.admitted (.answered task (.value ()) :: marks) = [] := sent.admitted
      rw [lines, List.append_nil]
      obtain ⟨_, rfl⟩ := sent.rest
      exact map_offset_registered_changeEntry queue current _ AckEntry.offset_markReturned
  | cut task done current rest message fault returning nonempty => exact (List.append_nil _).symm
  | accepted task ready acking =>
      obtain ⟨_, _, same⟩ :=
        (queue.settle ready.length (ready.getLastD 0)).endRound_rest task
      rw [same]
      exact (congrArg _ (queue.registered_settle ready.length (ready.getLastD 0))).trans
        (List.append_nil _).symm
  | broken task answer awaits unaccepted =>
      obtain ⟨_, _, same⟩ := queue.closeFlush_rest task
      rw [same]
      exact (List.append_nil _).symm
  | leave task =>
      obtain ⟨_, _, same⟩ := queue.closeFlush_rest task
      rw [same]
      exact (List.append_nil _).symm

/-- What a move does to the entries of a queue and to its window. -/
inductive Revises (queue next : AckQueue) : Prop
  | kept (settled : next.settled = queue.settled) (queued : next.queued = queue.queued)
      (window : next.window = queue.window)
  | registers (message : Message) (same : next = (queue.register message).1)
  | resolves (offset : Int) (verdict : Verdict) (same : next = (queue.resolve offset verdict).1)
  /-- The message of an entry is back at the broker. -/
  | returns (offset : Int)
      (settled : next.settled = (queue.changeEntry offset AckEntry.markReturned).settled)
      (queued : next.queued = (queue.changeEntry offset AckEntry.markReturned).queued)
      (window : next.window = queue.window)
  /-- The first entries are acknowledged. -/
  | settles (entries : Nat) (last : Int)
      (settled : next.settled = (queue.settle entries last).settled)
      (queued : next.queued = (queue.settle entries last).queued)
      (window : next.window = (queue.settle entries last).window)

/-- A move registers, resolves, returns or settles entries, or it leaves the entries and the window
alone. -/
theorem Move.revises {queue next : AckQueue} {account : Account} (move : Move queue account next) :
    queue.Revises next := by
  cases move with
  | register message => exact .registers message rfl
  | resolve offset verdict => exact .resolves offset verdict rfl
  | background changed =>
      obtain ⟨_, _, _, _, rfl⟩ := changed.rest
      exact .kept rfl rfl rfl
  | requestLock task fresh =>
      obtain ⟨_, _, same⟩ := requestLock_rest fresh
      rw [same]
      exact .kept rfl rfl rfl
  | startRound task granted some sent =>
      obtain ⟨_, rfl⟩ := sent.rest
      exact .kept rfl rfl rfl
  | returned task done current rest message returning sent =>
      obtain ⟨_, rfl⟩ := sent.rest
      exact .returns current rfl rfl rfl
  | cut task done current rest message fault returning nonempty => exact .kept rfl rfl rfl
  | accepted task ready acking =>
      obtain ⟨_, _, same⟩ := (queue.settle ready.length (ready.getLastD 0)).endRound_rest task
      rw [same]
      exact .settles ready.length (ready.getLastD 0) rfl rfl rfl
  | broken task answer awaits unaccepted | leave task =>
      obtain ⟨_, _, same⟩ := queue.closeFlush_rest task
      rw [same]
      exact .kept rfl rfl rfl

/-- A move is one of the schedule or the teardown, or concerns the entries, the signal and the
flushes with their lock only. -/
theorem Move.rest {queue next : AckQueue} {account : Account} (move : Move queue account next) :
    Background queue next ∨ ∃ settled queued window signal lock flushes, next =
      { queue with
        settled := settled, queued := queued, window := window, signal := signal, lock := lock
        flushes := flushes } := by
  cases move with
  | register message =>
      obtain ⟨_, _, same⟩ := queue.register_rest message
      exact .inr ⟨_, _, _, _, _, _, same⟩
  | resolve offset verdict =>
      obtain ⟨_, _, _, same, _⟩ := queue.resolve_rest offset verdict
      exact .inr ⟨_, _, _, _, _, _, same⟩
  | background changed => exact .inl changed
  | requestLock task fresh =>
      obtain ⟨_, _, same⟩ := requestLock_rest fresh
      exact .inr ⟨_, _, _, _, _, _, same⟩
  | startRound task granted some sent | returned task done current rest message returning sent =>
      obtain ⟨_, same⟩ := sent.rest
      exact .inr ⟨_, _, _, _, _, _, same⟩
  | cut task done current rest message fault returning nonempty =>
      exact .inr ⟨_, _, _, _, _, _, rfl⟩
  | accepted task ready acking =>
      obtain ⟨_, _, same⟩ :=
        (queue.settle ready.length (ready.getLastD 0)).endRound_rest task
      exact .inr ⟨_, _, _, _, _, _, same⟩
  | broken task answer awaits unaccepted | leave task =>
      obtain ⟨_, _, same⟩ := queue.closeFlush_rest task
      exact .inr ⟨_, _, _, _, _, _, same⟩

/-- No move changes the assignment of a queue. -/
theorem Move.assignment {queue next : AckQueue} {account : Account}
    (move : Move queue account next) : next.assignment = queue.assignment := by
  rcases move.rest with changed | ⟨_, _, _, _, _, _, rfl⟩
  · obtain ⟨_, _, _, _, rfl⟩ := changed.rest
    rfl
  · rfl

/-- A queue serves one assignment for good. -/
theorem Stride.assignment {queue next : AckQueue} {account : Account}
    (stride : Stride queue account next) : next.assignment = queue.assignment :=
  stride.preserves (motive := (·.assignment = queue.assignment))
    (fun move same => move.assignment.trans same) (fun _ same => same) rfl

/-- The registered offsets are the admitted ones, over any number of moves. -/
theorem Moves.registered {queue next : AckQueue} {account : Account}
    (moves : Moves queue account next) :
    next.registered.map AckEntry.offset =
      queue.registered.map AckEntry.offset ++ account.admitted := by
  induction moves with
  | refl => exact (List.append_nil _).symm
  | tail _ move ih => rw [move.registered, ih, List.append_assoc, Account.admitted_append]

/-- A stride adds the offsets that are admitted on the way, and no others. -/
theorem Stride.registered {queue next : AckQueue} {account : Account}
    (stride : Stride queue account next) :
    next.registered.map AckEntry.offset =
      queue.registered.map AckEntry.offset ++ account.admitted := by
  cases stride with
  | move move => exact move.registered
  | silent moves _ => exact moves.registered
  | opens moves task absent =>
      have registered := moves.registered
      exact registered

/-! ### The states of entries -/

/-- Exactly the registered offsets have a state. -/
theorem exists_stateOf?_iff (offset : Int) :
    (∃ state, queue.stateOf? offset = some state) ↔
      offset ∈ queue.registered.map AckEntry.offset := by
  rw [stateOf?, AckEntry.stateAt?]
  constructor
  · rintro ⟨state, found⟩
    obtain ⟨entry, here, _⟩ := Option.map_eq_some_iff.mp found
    have same := List.find?_some here
    exact List.mem_map.mpr ⟨entry, List.mem_of_find?_eq_some here, of_decide_eq_true same⟩
  · intro member
    obtain ⟨entry, listed, rfl⟩ := List.mem_map.mp member
    cases found : queue.registered.find? fun other => other.offset = entry.offset with
    | none => exact absurd (decide_eq_true rfl) (List.find?_eq_none.mp found entry listed)
    | some other => exact ⟨other.state, rfl⟩

/-- An entry that is appended is pending, unless there was one under its offset before. -/
theorem stateOf?_append (offset other : Int) :
    (queue.append offset).stateOf? other =
      (queue.stateOf? other).or (if offset = other then some .pending else none) := by
  unfold stateOf?
  rw [registered_append, AckEntry.stateAt?_append]
  congr 1
  by_cases same : offset = other
  · simp [AckEntry.stateAt?, AckEntry.fresh, same]
  · simp [AckEntry.stateAt?, AckEntry.fresh, same]

/-- An entry whose message is back is completed, and the others stay as they are. -/
theorem stateOf?_markReturned (offset other : Int) :
    (queue.changeEntry offset AckEntry.markReturned).stateOf? other =
      if other = offset then (queue.stateOf? other).map fun _ => .completed
      else queue.stateOf? other := by
  unfold stateOf?
  rw [registered_changeEntry]
  exact AckEntry.stateAt?_changeAt offset other queue.registered AckEntry.markReturned
    (fun _ => .completed) AckEntry.offset_markReturned fun _ => rfl

/-- A resolution moves a pending entry on and nothing else. -/
theorem stateOf?_resolve (offset other : Int) (verdict : Verdict) :
    (queue.resolve offset verdict).1.stateOf? other =
      if other = offset ∧ queue.stateOf? offset = some .pending then some verdict.state
      else queue.stateOf? other := by
  unfold resolve
  by_cases pending : queue.stateOf? offset = some .pending
  · rw [if_pos pending]
    change AckEntry.stateAt? other (queue.changeEntry offset (·.resolve verdict)).registered = _
    rw [registered_changeEntry, AckEntry.stateAt?_changeAt offset other queue.registered
      (·.resolve verdict) (fun state => if state.isPending then verdict.state else state)
      (fun entry => entry.offset_resolve verdict) ?_]
    · by_cases same : other = offset
      · subst same
        have found : AckEntry.stateAt? other queue.registered = some .pending := pending
        rw [if_pos rfl, if_pos ⟨rfl, pending⟩, found]
        rfl
      · rw [if_neg same, if_neg fun both => same both.1]
        rfl
    · intro entry
      unfold AckEntry.resolve
      split <;> rfl
  · rw [if_neg pending, if_neg fun both => pending both.2]

end AckQueue

end PullConsumer
