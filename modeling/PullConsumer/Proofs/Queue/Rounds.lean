import PullConsumer.Proofs.Queue.Increasing
import PullConsumer.Proofs.Queue.Turns

/-! # Rounds of a flush

While a flush waits for an answer, the offsets it has in hand are still the first of the queue, and
their entries are resolved (`AckQueue.Fits`), whatever is registered and resolved meanwhile. With
the order of the entries (`AckQueue.Ordered`) and the turns at the lock this makes the invariant of
a queue (`AckQueue.Sound`), which every move keeps (`AckQueue.Sound.move`).
-/

namespace PullConsumer

/-- Whether a flush in this phase waits for an answer. -/
def FlushPhase.isSending : FlushPhase → Bool
  | .returning .. | .acking _ => true
  | _ => false

/-- Something is sent under the lock only. -/
theorem FlushPhase.holdsLock_of_isSending {phase : FlushPhase} (sending : phase.isSending = true) :
    phase.holdsLock = true := by
  cases phase with
  | fresh | inLine | granted => exact absurd sending Bool.false_ne_true
  | returning | acking => rfl

namespace AckQueue

/-- The entries stand in the order of their offsets, the window gives the last offset registered
and the last one acknowledged, and what is acknowledged is completed. -/
structure Ordered (queue : AckQueue) : Prop where
  increasing : (-1 :: queue.registered.map AckEntry.offset).Pairwise (· < ·)
  top : queue.window.max = (queue.registered.map AckEntry.offset).getLastD (-1)
  bottom : queue.window.min = (queue.settled.map AckEntry.offset).getLastD (-1)
  completed : ∀ entry ∈ queue.settled, entry.state = .completed

/-- What a waiting flush has in hand agrees with the queue. -/
def Fits (queue : AckQueue) : FlushPhase → Prop
  | .returning done current rest message =>
    done ++ current :: rest <+: queue.queued.map AckEntry.offset ∧
      (∀ offset ∈ done, queue.stateOf? offset = some .completed) ∧
      queue.stateOf? current = some (.needRetry message) ∧
      ∀ offset ∈ rest, ∃ state, queue.stateOf? offset = some state ∧ state ≠ .pending
  | .acking ready =>
    ready ≠ [] ∧ ready <+: queue.queued.map AckEntry.offset ∧
      ∀ offset ∈ ready, queue.stateOf? offset = some .completed
  | _ => True

/-- The invariant of a queue. -/
structure Sound (queue : AckQueue) : Prop where
  ordered : queue.Ordered
  turns : queue.Turns
  fits : ∀ task phase, queue.flushes.get? task = some phase → queue.Fits phase

/-! ### Consequences of the order -/

namespace Ordered

variable {queue : AckQueue}

/-- The offsets of the entries increase in the order of registration. -/
theorem sorted (ordered : queue.Ordered) :
    (queue.registered.map AckEntry.offset).Pairwise (· < ·) :=
  ordered.increasing.of_cons

/-- The offsets of the queue follow those that are acknowledged. -/
theorem map_offset_registered (queue : AckQueue) : queue.registered.map AckEntry.offset =
    queue.settled.map AckEntry.offset ++ queue.queued.map AckEntry.offset :=
  List.map_append

/-- The offsets of the queued entries increase. -/
theorem sorted_queued (ordered : queue.Ordered) :
    (queue.queued.map AckEntry.offset).Pairwise (· < ·) := by
  have sorted := ordered.sorted
  rw [map_offset_registered] at sorted
  exact (List.pairwise_append.mp sorted).2.1

/-- An entry is the only one under its offset. -/
theorem stateOf?_of_mem (ordered : queue.Ordered) {entry : AckEntry}
    (member : entry ∈ queue.registered) : queue.stateOf? entry.offset = some entry.state :=
  AckEntry.stateAt?_of_mem ordered.sorted member

/-- What stands at the front and is no longer pending is ready for a flush. -/
theorem readyOffsets_resolved (ordered : queue.Ordered) : ∀ offset ∈ queue.readyOffsets,
    ∃ state, queue.stateOf? offset = some state ∧ state ≠ .pending := by
  intro offset member
  obtain ⟨entry, taken, rfl⟩ := List.mem_map.mp member
  have listed : entry ∈ queue.registered :=
    List.mem_append_right _ ((List.takeWhile_sublist _).mem taken)
  have resolved : entry.state.isPending = false := by
    simpa using List.all_eq_true.mp List.all_takeWhile entry taken
  refine ⟨entry.state, ordered.stateOf?_of_mem listed, ?_⟩
  intro pending
  rw [pending] at resolved
  exact Bool.noConfusion resolved

/-- The order of a queue depends on its entries and its window only. -/
theorem of_same {next : AckQueue} (ordered : queue.Ordered) (settled : next.settled = queue.settled)
    (queued : next.queued = queue.queued) (window : next.window = queue.window) :
    next.Ordered := by
  have registered := registered_congr settled queued
  constructor
  · rw [registered]
    exact ordered.increasing
  · rw [registered, window]
    exact ordered.top
  · rw [settled, window]
    exact ordered.bottom
  · rw [settled]
    exact ordered.completed

/-- An offset above the window keeps the order when it is appended. -/
theorem append (ordered : queue.Ordered) {offset : Int} (above : queue.window.max < offset) :
    (queue.append offset).Ordered := by
  have registered : (queue.append offset).registered.map AckEntry.offset =
      queue.registered.map AckEntry.offset ++ [offset] := by
    rw [registered_append, List.map_append]
    rfl
  constructor
  · rw [registered]
    refine Increasing.append_singleton ordered.increasing ?_
    rw [← ordered.top]
    exact above
  · rw [registered, List.getLastD_concat]
    rfl
  · exact ordered.bottom
  · exact ordered.completed

/-- A change of states that leaves completed entries completed keeps the order. -/
theorem changeEntry (ordered : queue.Ordered) (offset : Int) (change : AckEntry → AckEntry)
    (offsets : ∀ entry, (change entry).offset = entry.offset)
    (completed : ∀ entry, entry.state = .completed → (change entry).state = .completed) :
    (queue.changeEntry offset change).Ordered := by
  constructor
  · rw [map_offset_registered_changeEntry queue offset change offsets]
    exact ordered.increasing
  · rw [map_offset_registered_changeEntry queue offset change offsets]
    exact ordered.top
  · have settled : (queue.changeEntry offset change).settled.map AckEntry.offset =
        queue.settled.map AckEntry.offset :=
      AckEntry.map_offset_changeAt offset change offsets queue.settled
    rw [settled]
    exact ordered.bottom
  · intro entry member
    obtain ⟨before, listed, rfl⟩ := List.mem_map.mp member
    split
    · exact completed before (ordered.completed before listed)
    · exact ordered.completed before listed

/-- What is settled is appended to the settled entries, in order. -/
theorem map_offset_settled_settle {queue : AckQueue} {ready : List Int}
    (front : ready <+: queue.queued.map AckEntry.offset) :
    (queue.settle ready.length (ready.getLastD 0)).settled.map AckEntry.offset =
      queue.settled.map AckEntry.offset ++ ready := by
  change (queue.settled ++ queue.queued.take ready.length).map AckEntry.offset = _
  rw [List.map_append, List.map_take, ← List.prefix_iff_eq_take.mp front]

/-- To settle the block at the front keeps the order, and moves the window up to its end. -/
theorem settle (ordered : queue.Ordered) {ready : List Int}
    (fits : queue.Fits (.acking ready)) :
    (queue.settle ready.length (ready.getLastD 0)).Ordered := by
  obtain ⟨nonempty, front, completed⟩ := fits
  constructor
  · rw [registered_settle]
    exact ordered.increasing
  · rw [registered_settle]
    exact ordered.top
  · rw [map_offset_settled_settle front, Increasing.getLastD_append _ nonempty _ 0]
    have rises : queue.window.min < ready.getLastD 0 := by
      have increasing := ordered.increasing
      rw [map_offset_registered, ← List.cons_append] at increasing
      rw [ordered.bottom]
      exact Increasing.lt_of_append increasing List.getLastD_mem_cons
        (front.subset (Increasing.getLastD_mem nonempty))
    exact Int.max_eq_right (Int.le_of_lt rises)
  · intro entry member
    rcases List.mem_append.mp member with before | now
    · exact ordered.completed entry before
    · have listed : entry ∈ queue.registered :=
        List.mem_append_right _ (List.mem_of_mem_take now)
      have offset : entry.offset ∈ ready := by
        rw [List.prefix_iff_eq_take.mp front, ← List.map_take]
        exact List.mem_map_of_mem now
      exact Option.some.inj ((ordered.stateOf?_of_mem listed).symm.trans
        (completed entry.offset offset))

end Ordered

/-! ### What a waiting flush has in hand -/

/-- A phase in which nothing is sent fits every queue. -/
theorem fits_of_not_isSending (queue : AckQueue) {phase : FlushPhase}
    (idle : phase.isSending = false) : queue.Fits phase := by
  cases phase with
  | fresh | inLine | granted => trivial
  | returning | acking => exact absurd idle.symm Bool.false_ne_true

/-- What a waiting flush has in hand stays right while the queue grows at its end and resolved
entries stay as they are. -/
theorem Fits.mono {queue next : AckQueue} {phase : FlushPhase} (fits : queue.Fits phase)
    (queued : queue.queued.map AckEntry.offset <+: next.queued.map AckEntry.offset)
    (resolved : ∀ offset state, queue.stateOf? offset = some state → state ≠ .pending →
      next.stateOf? offset = some state) : next.Fits phase := by
  cases phase with
  | fresh | inLine | granted => trivial
  | returning done current rest message =>
      obtain ⟨front, completed, nacked, later⟩ := fits
      refine ⟨front.trans queued, fun offset member => ?_, resolved current _ nacked nofun,
        fun offset member => ?_⟩
      · exact resolved offset _ (completed offset member) nofun
      · obtain ⟨state, found, settled⟩ := later offset member
        exact ⟨state, resolved offset state found settled, settled⟩
  | acking ready =>
      obtain ⟨nonempty, front, completed⟩ := fits
      exact ⟨nonempty, front.trans queued, fun offset member =>
        resolved offset _ (completed offset member) nofun⟩

/-- A resolved entry that no message has to be returned for is completed. -/
theorem completed_of_resolved {queue : AckQueue} {offset : Int}
    (resolved : ∃ state, queue.stateOf? offset = some state ∧ state ≠ .pending)
    (kept : ∀ message, queue.stateOf? offset ≠ some (.needRetry message)) :
    queue.stateOf? offset = some .completed := by
  obtain ⟨state, found, settled⟩ := resolved
  cases state with
  | pending => exact absurd rfl settled
  | completed => exact found
  | needRetry message => exact absurd found (kept message)

/-- A flush that sends with resolved offsets at the front of the queue has the right ones in
hand. -/
theorem Transmission.fits {queue next : AckQueue} {task : TaskId} {done rest : List Int}
    {account : Account} (sent : Transmission queue task done rest account next)
    (nonempty : done ++ rest ≠ []) (front : done ++ rest <+: queue.queued.map AckEntry.offset)
    (completed : ∀ offset ∈ done, queue.stateOf? offset = some .completed)
    (resolved : ∀ offset ∈ rest, ∃ state, queue.stateOf? offset = some state ∧ state ≠ .pending) :
    ∃ phase, next = queue.setPhase task phase ∧ phase.isSending = true ∧ next.Fits phase := by
  cases sent with
  | sendBack passed current later message split kept nacked =>
      subst split
      refine ⟨_, rfl, rfl, ?_, fun offset member => ?_, nacked, fun offset member => ?_⟩
      · rw [List.append_assoc]
        exact front
      · rcases List.mem_append.mp member with before | now
        · exact completed offset before
        · exact completed_of_resolved (resolved offset (List.mem_append_left _ now))
            (kept offset now)
      · exact resolved offset (List.mem_append_right _ (List.mem_cons_of_mem _ member))
  | sendAck kept =>
      refine ⟨_, rfl, rfl, nonempty, front, fun offset member => ?_⟩
      rcases List.mem_append.mp member with before | now
      · exact completed offset before
      · exact completed_of_resolved (resolved offset now) (kept offset now)

/-- Leaving the lock makes no other flush wait for an answer. -/
theorem leaveLock_sending (queue : AckQueue) (task other : TaskId) {phase : FlushPhase}
    (here : (queue.leaveLock task).1.flushes.get? other = some phase)
    (sending : phase.isSending = true) : queue.flushes.get? other = some phase := by
  revert here
  unfold leaveLock
  simp only
  split
  · split
    · exact id
    · rw [Table.get?_set]
      split
      · intro granted
        cases granted
        exact absurd sending Bool.false_ne_true
      · exact id
  · exact id

/-- The end of a flush makes no other flush send anything. -/
theorem closeFlush_sending (queue : AckQueue) (task other : TaskId) {phase : FlushPhase}
    (here : (queue.closeFlush task).1.flushes.get? other = some phase)
    (sending : phase.isSending = true) : queue.flushes.get? other = some phase := by
  change ((queue.leaveLock task).1.flushes.erase task).get? other = some phase at here
  rw [Table.get?_erase] at here
  split at here
  · exact nomatch here
  · exact queue.leaveLock_sending task other here sending

/-- When the holder of the lock ends its flush, no flush waits for an answer. -/
theorem Turns.closeFlush_idle {queue : AckQueue} (turns : queue.Turns) {task other : TaskId}
    {held phase : FlushPhase} (holder : queue.flushes.get? task = some held)
    (holds : held.holdsLock = true)
    (here : (queue.closeFlush task).1.flushes.get? other = some phase) :
    phase.isSending = false := by
  refine Bool.eq_false_iff.mpr fun sending => ?_
  have before := queue.closeFlush_sending task other here sending
  have same := turns.unique holder holds before (phase.holdsLock_of_isSending sending)
  change ((queue.leaveLock task).1.flushes.erase task).get? other = some phase at here
  rw [Table.get?_erase, if_pos same] at here
  exact nomatch here

/-- When the holder of the lock begins anew, no flush waits for an answer. -/
theorem Turns.endRound_idle {queue : AckQueue} (turns : queue.Turns) {task other : TaskId}
    {held phase : FlushPhase} (holder : queue.flushes.get? task = some held)
    (holds : held.holdsLock = true)
    (here : (queue.endRound task).1.flushes.get? other = some phase) :
    phase.isSending = false := by
  change ((queue.leaveLock task).1.flushes.set task .fresh).get? other = some phase at here
  rw [Table.get?_set] at here
  split at here
  · cases here
    rfl
  · rename_i different
    refine Bool.eq_false_iff.mpr fun sending => different ?_
    have before := queue.leaveLock_sending task other here sending
    exact turns.unique holder holds before (phase.holdsLock_of_isSending sending)

namespace Sound

variable {queue next : AckQueue}

/-- A fresh queue is sound. -/
theorem ofAssignment (assignment : Assignment) (settings : Settings) :
    (AckQueue.ofAssignment assignment settings).Sound where
  ordered := ⟨List.pairwise_singleton _ _, rfl, rfl, fun _ member => nomatch member⟩
  turns := .ofAssignment assignment settings
  fits := fun _ _ here => nomatch here

/-- If only one flush may wait for an answer, only its phase has to fit. -/
theorem fits_setPhase {task : TaskId} {before : FlushPhase} (turns : queue.Turns)
    (here : queue.flushes.get? task = some before) (held : before.holdsLock = true)
    {after : FlushPhase} (fits : (queue.setPhase task after).Fits after) :
    ∀ other phase, (queue.setPhase task after).flushes.get? other = some phase →
      (queue.setPhase task after).Fits phase := by
  intro other phase there
  rw [setPhase, Table.get?_set] at there
  split at there
  · cases there
    exact fits
  · rename_i different
    cases sending : phase.isSending with
    | false => exact fits_of_not_isSending _ sending
    | true =>
        exact absurd (turns.unique here held there (phase.holdsLock_of_isSending sending)) different

/-- Entries and window untouched, and no flush newly waiting for an answer: the queue stays
sound. -/
theorem of_rest (sound : queue.Sound) (turns : next.Turns) (settled : next.settled = queue.settled)
    (queued : next.queued = queue.queued) (window : next.window = queue.window)
    (sending : ∀ task phase, next.flushes.get? task = some phase → phase.isSending = true →
      queue.flushes.get? task = some phase) : next.Sound where
  ordered := sound.ordered.of_same settled queued window
  turns := turns
  fits := by
    intro task phase here
    cases waits : phase.isSending with
    | false => exact fits_of_not_isSending next waits
    | true =>
        have same : ∀ offset, next.stateOf? offset = queue.stateOf? offset := by
          intro offset
          unfold stateOf? registered
          rw [settled, queued]
        refine (sound.fits task phase (sending task phase here waits)).mono ?_ ?_
        · simp only [queued, List.prefix_refl]
        · intro offset state found _
          rw [same, found]

/-- A flush that holds the lock and sends what is resolved at the front keeps the queue sound. -/
theorem of_transmission {task : TaskId} {before : FlushPhase} {done rest : List Int}
    {account : Account} (ordered : queue.Ordered) (turns : queue.Turns)
    (here : queue.flushes.get? task = some before) (held : before.holdsLock = true)
    (nonempty : done ++ rest ≠ []) (front : done ++ rest <+: queue.queued.map AckEntry.offset)
    (completed : ∀ offset ∈ done, queue.stateOf? offset = some .completed)
    (resolved : ∀ offset ∈ rest, ∃ state, queue.stateOf? offset = some state ∧ state ≠ .pending)
    (sent : Transmission queue task done rest account next) : next.Sound := by
  have after := turns.transmission here held sent
  obtain ⟨phase, rfl, _, fits⟩ := sent.fits nonempty front completed resolved
  exact ⟨ordered.of_same rfl rfl rfl, after, fits_setPhase turns here held fits⟩

/-- A sound queue stays sound when an offset above its window is appended. -/
theorem append (sound : queue.Sound) {offset : Int} (above : queue.window.max < offset) :
    (queue.append offset).Sound where
  ordered := sound.ordered.append above
  turns := sound.turns.of_same rfl rfl
  fits := by
    intro task phase here
    refine (sound.fits task phase here).mono ?_ ?_
    · change _ <+: (queue.queued ++ [AckEntry.fresh offset]).map AckEntry.offset
      rw [List.map_append]
      exact List.prefix_append _ _
    · intro other state found _
      rw [stateOf?_append, found]
      rfl

/-- A resolution reaches no entry that a waiting flush has in hand. -/
theorem resolve (sound : queue.Sound) (offset : Int) (verdict : Verdict) :
    (queue.resolve offset verdict).1.Sound where
  ordered := by
    unfold AckQueue.resolve
    split
    · refine (sound.ordered.changeEntry offset (·.resolve verdict)
        (fun entry => entry.offset_resolve verdict) fun entry completed => ?_).of_same rfl rfl rfl
      simp only [AckEntry.resolve, completed, AckState.isPending, Bool.false_eq_true, if_false]
    · exact sound.ordered
  turns := sound.turns.move (.resolve offset verdict)
  fits := by
    intro task phase here
    have flushes : (queue.resolve offset verdict).1.flushes = queue.flushes := by
      obtain ⟨_, _, _, same, _⟩ := queue.resolve_rest offset verdict
      rw [same]
    rw [flushes] at here
    refine (sound.fits task phase here).mono ?_ ?_
    · simp only [map_offset_queued_resolve, List.prefix_refl]
    · intro other state found settled
      rw [stateOf?_resolve, if_neg ?_]
      · exact found
      · rintro ⟨rfl, pending⟩
        exact settled (Option.some.inj (found.symm.trans pending))

/-- A message that is back at the broker leaves the round with one entry more completed. -/
theorem returned (sound : queue.Sound) {task : TaskId} {done rest : List Int} {current : Int}
    {message : Message} {account : Account}
    (returning : queue.flushes.get? task = some (.returning done current rest message))
    (sent : Transmission (queue.changeEntry current AckEntry.markReturned) task
      (done ++ [current]) rest account next) : next.Sound := by
  obtain ⟨front, completed, nacked, later⟩ := sound.fits task _ returning
  have marked : ∀ offset state, queue.stateOf? offset = some state → state = .completed ∨
      offset = current → (queue.changeEntry current AckEntry.markReturned).stateOf? offset =
        some .completed := by
    intro offset state found either
    rw [stateOf?_markReturned]
    by_cases same : offset = current
    · rw [if_pos same, found]
      rfl
    · rw [if_neg same, found, either.resolve_right same]
  have offsets : (queue.changeEntry current AckEntry.markReturned).queued.map AckEntry.offset =
      queue.queued.map AckEntry.offset :=
    AckEntry.map_offset_changeAt current _ AckEntry.offset_markReturned queue.queued
  have ordered : (queue.changeEntry current AckEntry.markReturned).Ordered :=
    sound.ordered.changeEntry current _ AckEntry.offset_markReturned fun _ _ => rfl
  have turns : (queue.changeEntry current AckEntry.markReturned).Turns :=
    sound.turns.of_same rfl rfl
  refine of_transmission ordered turns returning rfl ?_ ?_ ?_ ?_ sent
  · simp
  · rw [offsets, List.append_assoc]
    exact front
  · intro offset member
    rcases List.mem_append.mp member with before | now
    · exact marked offset _ (completed offset before) (.inl rfl)
    · rw [List.mem_singleton.mp now]
      exact marked current _ nacked (.inr rfl)
  · intro offset member
    obtain ⟨state, found, settled⟩ := later offset member
    rw [stateOf?_markReturned]
    by_cases same : offset = current
    · exact ⟨.completed, by rw [if_pos same, found]; rfl, nofun⟩
    · exact ⟨state, by rw [if_neg same, found], settled⟩

/-- An accepted acknowledgment removes what was acknowledged and opens the next round. -/
theorem accepted (sound : queue.Sound) {task : TaskId} {ready : List Int}
    (acking : queue.flushes.get? task = some (.acking ready)) :
    ((queue.settle ready.length (ready.getLastD 0)).endRound task).1.Sound := by
  have settled : (queue.settle ready.length (ready.getLastD 0)).Turns := sound.turns.of_same rfl rfl
  refine ⟨?_, sound.turns.move (.accepted task ready acking), fun other phase here =>
    fits_of_not_isSending _ (settled.endRound_idle acking rfl here)⟩
  obtain ⟨_, _, same⟩ := (queue.settle ready.length (ready.getLastD 0)).endRound_rest task
  rw [same]
  exact (sound.ordered.settle (sound.fits task _ acking)).of_same rfl rfl rfl

/-- **The invariant of a queue.** Every move keeps a queue sound. -/
theorem move (sound : queue.Sound) {account : Account} (move : Move queue account next) :
    next.Sound := by
  have turns := sound.turns.move move
  cases move with
  | register message =>
      cases admits : queue.admits message with
      | error fault =>
          simp only [AckQueue.register, admits]
          exact sound
      | ok offset =>
          simp only [AckQueue.register, admits]
          exact sound.append ((queue.admits_eq_ok_iff message offset).mp admits).2.2
  | resolve offset verdict => exact sound.resolve offset verdict
  | background changed =>
      obtain ⟨_, _, _, _, rfl⟩ := changed.rest
      exact sound.of_rest turns rfl rfl rfl fun _ _ here _ => here
  | requestLock task fresh =>
      obtain ⟨_, _, same⟩ := requestLock_rest fresh
      refine sound.of_rest turns (by rw [same]) (by rw [same]) (by rw [same])
        fun other phase here sending => ?_
      simp only [proceedFlush, fresh, Table.get?_set] at here
      split at here
      · split at here
        all_goals
          cases here
          exact absurd sending Bool.false_ne_true
      · exact here
  | startRound task granted some sent =>
      exact of_transmission sound.ordered sound.turns granted rfl some
        ((List.takeWhile_prefix _).map _) (fun _ member => absurd member List.not_mem_nil)
        sound.ordered.readyOffsets_resolved sent
  | returned task done current rest message returning sent => exact sound.returned returning sent
  | cut task done current rest message fault returning nonempty =>
      obtain ⟨front, completed, _, _⟩ := sound.fits task _ returning
      refine ⟨sound.ordered.of_same rfl rfl rfl, turns,
        fits_setPhase sound.turns returning rfl ⟨nonempty, ?_, completed⟩⟩
      exact (List.prefix_append done (current :: rest)).trans front
  | accepted task ready acking => exact sound.accepted acking
  | broken task answer awaits unaccepted | leave task =>
      obtain ⟨_, _, same⟩ := queue.closeFlush_rest task
      exact sound.of_rest turns (by rw [same]) (by rw [same]) (by rw [same])
        fun other phase => queue.closeFlush_sending task other

/-- A sound queue stays sound when another flush is opened. -/
theorem openFlush (sound : queue.Sound) {task : TaskId}
    (absent : queue.flushes.get? task = none) : (queue.openFlush task).Sound := by
  refine sound.of_rest (sound.turns.openFlush absent) rfl rfl rfl fun other phase here sending => ?_
  rw [AckQueue.openFlush, Table.get?_set] at here
  split at here
  · cases here
    exact absurd sending Bool.false_ne_true
  · exact here

/-- A stride keeps a queue sound. -/
theorem stride {account : Account} (sound : queue.Sound) (stride : queue.Stride account next) :
    next.Sound :=
  stride.preserves (fun move still => Sound.move still move)
    (fun absent still => Sound.openFlush still absent) sound

end Sound

end AckQueue

end PullConsumer
