import PullConsumer.Proofs.Queue.Closing
import PullConsumer.Proofs.Queue.Returns
import PullConsumer.Proofs.Queue.Window

/-! # One flush among others

What a step of a flush does to its queue, and what the steps of others do to a flush. Unless an
acknowledgment is accepted, a flush leaves everything but the entries whose messages it returned as
it was (`AckQueue.Answers.intact`), and it leaves the lock to the next in line when it ends
(`AckQueue.Turns.closeFlush_passesLock`). While a flush holds the lock, what others do only appends
to the queue and resolves entries (`AckQueue.Move.beside`).
-/

namespace PullConsumer

/-- The offset whose message a line reports to be back at the broker. -/
def ReturnMark.takenBack? : ReturnMark → Option Int
  | .returned offset _ => some offset
  | _ => none

/-- The offsets whose messages the broker took back. -/
def ReturnLog.takenBack (log : ReturnLog) : List Int :=
  log.filterMap ReturnMark.takenBack?

/-- The log has no return of an offset exactly if the offset was not taken back. -/
theorem ReturnLog.returns_eq_nil_iff (offset : Int) (log : ReturnLog) :
    ReturnLog.returns offset log = [] ↔ offset ∉ ReturnLog.takenBack log := by
  have read : ∀ mark : ReturnMark, (match mark with
      | .returned other message => if other = offset then some message else none
      | _ => none) = none ↔ mark.takenBack? ≠ some offset := by
    intro mark
    cases mark with
    | returned other message => simp [ReturnMark.takenBack?]
    | rejected | asked | acknowledging => simp [ReturnMark.takenBack?]
  simp only [ReturnLog.returns, takenBack, List.filterMap_eq_nil_iff, List.mem_filterMap,
    not_exists,
    not_and]
  exact forall₂_congr fun mark _ => read mark

/-- No line of an account is about a task. -/
def Account.Omits (account : Account) (task : TaskId) : Prop :=
  ∀ mark ∈ account, mark.task? ≠ some task

theorem Account.Omits.nil (task : TaskId) : Account.Omits [] task :=
  fun _ member => absurd member List.not_mem_nil

namespace AckQueue

variable {queue next : AckQueue} {account : Account} {task : TaskId} {phase : FlushPhase}

/-! ### What others do beside a flush -/

/-- A transmission of one task leaves the flushes of the others where they are. -/
theorem Transmission.elsewhere {other : TaskId} {done rest : List Int}
    (sent : Transmission queue other done rest account next) (different : other ≠ task) :
    next.flushes.get? task = queue.flushes.get? task := by
  cases sent with
  | sendBack | sendAck => exact (Table.get?_set ..).trans (if_neg different)

/-- A flush that sends something is not one that no line is about. -/
theorem Transmission.ne_of_omits {other : TaskId} {done rest : List Int}
    (sent : Transmission queue other done rest account next) (marks : Account)
    (omits : (marks ++ account).Omits task) : other ≠ task := by
  rintro rfl
  obtain ⟨call, called⟩ := sent.called
  exact omits _ (List.mem_append_right marks called) rfl

/-- What a flush waits for is not the doing of others. -/
theorem Move.sending_before (move : Move queue account next) (omits : account.Omits task)
    (there : next.flushes.get? task = some phase) (sending : phase.isSending = true) :
    queue.flushes.get? task = some phase := by
  cases move with
  | register message =>
      obtain ⟨_, _, same⟩ := queue.register_rest message
      rw [same] at there
      exact there
  | resolve offset verdict =>
      obtain ⟨_, _, _, same, _⟩ := queue.resolve_rest offset verdict
      rw [same] at there
      exact there
  | background changed =>
      obtain ⟨_, _, _, _, rfl⟩ := changed.rest
      exact there
  | requestLock other fresh =>
      simp only [proceedFlush, fresh, Table.get?_set] at there
      split at there
      · have waits : phase.isSending = false := by
          rw [← Option.some.inj there]
          split <;> rfl
        exact absurd (waits.symm.trans sending) Bool.false_ne_true
      · exact there
  | startRound other granted some sent =>
      exact (sent.elsewhere (sent.ne_of_omits [] omits)).symm.trans there
  | returned other done current rest message returning sent =>
      exact (sent.elsewhere (sent.ne_of_omits [_] omits)).symm.trans there
  | cut other done current rest message fault returning nonempty =>
      have different : other ≠ task := fun same => omits _ List.mem_cons_self (congrArg some same)
      exact ((Table.get?_set ..).trans (if_neg different)).symm.trans there
  | accepted other ready acking =>
      have different : other ≠ task := fun same => omits _ List.mem_cons_self (congrArg some same)
      change ((leaveLock _ other).1.flushes.set other .fresh).get? task = some phase at there
      rw [Table.get?_set, if_neg different] at there
      have before := leaveLock_sending _ other task there sending
      exact before
  | broken other answer awaits unaccepted | leave other =>
      exact queue.closeFlush_sending other task there sending

/-- Entries only join a queue at its end, and none leaves it. -/
structure Extends (queue next : AckQueue) : Prop where
  settled : next.settled.map AckEntry.offset = queue.settled.map AckEntry.offset
  queued : queue.queued.map AckEntry.offset <+: next.queued.map AckEntry.offset
  low : next.window.min = queue.window.min

namespace Extends

theorem of_same (settled : next.settled = queue.settled) (queued : next.queued = queue.queued)
    (window : next.window = queue.window) : queue.Extends next :=
  ⟨congrArg _ settled, queued ▸ List.prefix_rfl, congrArg AckWindow.min window⟩

theorem refl (queue : AckQueue) : queue.Extends queue :=
  .of_same rfl rfl rfl

theorem trans {middle : AckQueue} (first : queue.Extends middle) (second : middle.Extends next) :
    queue.Extends next where
  settled := second.settled.trans first.settled
  queued := first.queued.trans second.queued
  low := second.low.trans first.low

/-- A registration extends the queue by its message, or leaves it as it is. -/
theorem register (queue : AckQueue) (message : Message) :
    queue.Extends (queue.register message).1 := by
  have registration := queue.registration message
  generalize (queue.register message).2 = result at registration
  generalize (queue.register message).1 = next at registration
  cases registration with
  | refused fault cause => exact .refl queue
  | accepted offset live valid above =>
      refine ⟨rfl, ?_, rfl⟩
      rw [List.map_append]
      exact List.prefix_append _ _

/-- A verdict settles an entry and moves none. -/
theorem resolve (queue : AckQueue) (offset : Int) (verdict : Verdict) :
    queue.Extends (queue.resolve offset verdict).1 := by
  unfold AckQueue.resolve
  split
  · have offsets : ∀ entries : List AckEntry,
        (AckEntry.changeAt offset (·.resolve verdict) entries).map AckEntry.offset =
          entries.map AckEntry.offset :=
      AckEntry.map_offset_changeAt offset _ (AckEntry.offset_resolve · verdict)
    exact ⟨offsets _, (offsets queue.queued) ▸ List.prefix_rfl, rfl⟩
  · exact .refl queue

end Extends

/-- **Others only add.** While a flush holds the lock, a move that is not its own leaves it as it is
and takes nothing off the queue, unless the flush is dropped. -/
theorem Move.beside (move : Move queue account next) (turns : queue.Turns)
    (omits : account.Omits task) (here : queue.flushes.get? task = some phase)
    (holds : phase.holdsLock = true) :
    next.flushes.get? task = none ∨ next.flushes.get? task = some phase ∧ queue.Extends next := by
  -- Whoever else sends holds the lock, and so is the flush itself.
  have mine : ∀ other held, queue.flushes.get? other = some held → held.holdsLock = true →
      other = task := fun other held there too => turns.unique there too here holds
  cases move with
  | register message =>
      obtain ⟨_, _, same⟩ := queue.register_rest message
      refine .inr ⟨?_, .register queue message⟩
      rw [same]
      exact here
  | resolve offset verdict =>
      obtain ⟨_, _, _, same, _⟩ := queue.resolve_rest offset verdict
      refine .inr ⟨?_, .resolve queue offset verdict⟩
      rw [same]
      exact here
  | background changed =>
      obtain ⟨_, _, _, _, rfl⟩ := changed.rest
      exact .inr ⟨here, .of_same rfl rfl rfl⟩
  | requestLock other fresh =>
      have different : other ≠ task := by
        rintro rfl
        cases fresh.symm.trans here
        exact Bool.false_ne_true holds
      refine .inr ⟨?_, ?_⟩
      · simp only [proceedFlush, fresh, Table.get?_set, different, if_false]
        exact here
      · obtain ⟨_, _, same⟩ := requestLock_rest fresh
        rw [same]
        exact .of_same rfl rfl rfl
  | startRound other granted some sent =>
      exact absurd (mine other _ granted rfl) (sent.ne_of_omits [] omits)
  | returned other done current rest message returning sent =>
      exact absurd (mine other _ returning rfl) (sent.ne_of_omits [_] omits)
  | cut other done current rest message fault returning nonempty =>
      exact absurd (congrArg some (mine other _ returning rfl)) (omits _ List.mem_cons_self)
  | accepted other ready acking =>
      exact absurd (congrArg some (mine other _ acking rfl)) (omits _ List.mem_cons_self)
  | broken other answer awaits unaccepted =>
      obtain ⟨held, call, there, calls⟩ := exists_callOf?_of_awaitsAnswer awaits
      have sends := held.holdsLock_of_isSending (isSending_of_callOf? calls)
      exact absurd (congrArg some (mine other held there sends)) (omits _ List.mem_cons_self)
  | leave other =>
      by_cases same : other = task
      · subst same
        exact .inl ((Table.get?_erase ..).trans (if_pos rfl))
      · have free : queue.lock.holder ≠ some other := by
          intro holder
          obtain ⟨held, there, too⟩ := (turns.holder other).mp holder
          exact same (mine other held there too)
        refine .inr ⟨?_, ?_⟩
        · change ((queue.leaveLock other).1.flushes.erase other).get? task = some phase
          rw [Table.get?_erase, if_neg same, leaveLock_of_not_holder free]
          exact here
        · obtain ⟨_, _, rest⟩ := queue.closeFlush_rest other
          rw [rest]
          exact .of_same rfl rfl rfl

/-! ### What a flush does by itself -/

/-- A change of a queue on behalf of a flush that acknowledges nothing: the failed entries in
`back`, whose messages went back to the broker, are completed, and the rest stays as it was. -/
structure Intact (queue next : AckQueue) (back : List Int) : Prop where
  settled : next.settled.map AckEntry.offset = queue.settled.map AckEntry.offset
  queued : next.queued.map AckEntry.offset = queue.queued.map AckEntry.offset
  window : next.window = queue.window
  signal : next.signal = queue.signal
  failed : ∀ offset ∈ back, ∃ message, queue.stateOf? offset = some (.needRetry message)
  states : ∀ offset, next.stateOf? offset =
    if offset ∈ back then some .completed else queue.stateOf? offset

namespace Intact

theorem of_same (settled : next.settled = queue.settled) (queued : next.queued = queue.queued)
    (window : next.window = queue.window) (signal : next.signal = queue.signal) :
    queue.Intact next [] where
  settled := congrArg _ settled
  queued := congrArg _ queued
  window := window
  signal := signal
  failed _ member := absurd member List.not_mem_nil
  states offset := by
    rw [if_neg List.not_mem_nil, stateOf?, stateOf?, registered_congr settled queued]

/-- An intact queue extends the one before, whatever was taken back. -/
theorem extending {back : List Int} (intact : queue.Intact next back) : queue.Extends next where
  settled := intact.settled
  queued := intact.queued ▸ List.prefix_rfl
  low := congrArg AckWindow.min intact.window

end Intact

/-- The end of a flush touches no entry. -/
theorem closeFlush_intact (queue : AckQueue) (task : TaskId) :
    queue.Intact (queue.closeFlush task).1 [] := by
  obtain ⟨_, _, same⟩ := queue.closeFlush_rest task
  rw [same]
  exact .of_same rfl rfl rfl rfl

/-- A transmission of rejected entries touches no entry, since it only speaks of them to the
client. -/
theorem Transmission.intact {done rest : List Int}
    (sent : Transmission queue task done rest account next) : queue.Intact next [] := by
  obtain ⟨_, rfl⟩ := sent.rest
  exact .of_same rfl rfl rfl rfl

/-- A call of a flush tells of no message back at the broker. -/
theorem Transmission.takenBack {done rest : List Int}
    (sent : Transmission queue task done rest account next) (before other : AckQueue) :
    ReturnLog.takenBack (account.filterMap (before.returnMark? other)) = [] := by
  cases sent with
  | sendBack passed current later message split kept nacked =>
      cases held : other.returning? task with
      | none => simp only [List.filterMap, returnMark?, held, Option.map_none]; rfl
      | some returning => simp only [List.filterMap, returnMark?, held, Option.map_some]; rfl
  | sendAck kept => rfl

/-- A flush that goes on by itself leaves the entries, the window and the signal alone. -/
theorem Proceeds.intact (proceeds : queue.Proceeds task account next) (other : AckQueue) :
    queue.Intact next (ReturnLog.takenBack (account.filterMap (queue.returnMark? other))) := by
  cases proceeds with
  | asks | idle => exact .of_same rfl rfl rfl rfl
  | sends granted sent =>
      rw [sent.takenBack]
      exact sent.intact
  | leaves => exact queue.closeFlush_intact task

/-- The entry whose message is back at the broker is completed. -/
theorem Sound.returned_intact (sound : queue.Sound) {done rest : List Int} {current : Int}
    {message : Message}
    (returning : queue.flushes.get? task = some (.returning done current rest message))
    (sent : Transmission (queue.changeEntry current AckEntry.markReturned) task
      (done ++ [current]) rest account next) : queue.Intact next [current] := by
  have rejected := (sound.fits task _ returning).2.2.1
  have offsets : ∀ entries : List AckEntry,
      (AckEntry.changeAt current AckEntry.markReturned entries).map AckEntry.offset =
        entries.map AckEntry.offset :=
    AckEntry.map_offset_changeAt current AckEntry.markReturned fun _ => rfl
  obtain ⟨_, rfl⟩ := sent.rest
  refine ⟨offsets _, offsets _, rfl, rfl, fun offset member => ?_, fun offset => ?_⟩
  · rw [List.mem_singleton.mp member]
    exact ⟨message, rejected⟩
  · refine (queue.stateOf?_markReturned current offset).trans ?_
    by_cases same : offset = current
    · rw [if_pos same, if_pos (List.mem_singleton.mpr same), same, rejected, Option.map_some]
    · rw [if_neg same, if_neg (mt List.mem_singleton.mp same)]

/-- **Unless an acknowledgment is accepted, a flush takes in an answer without loss.** The entries
whose messages are back at the broker are completed, and nothing else changes. -/
theorem Answers.intact {answer : Answer Unit} (answers : queue.Answers task answer account next)
    (sound : queue.Sound) (other : AckQueue)
    (unaccepted : answer = .value () → ∀ ready, queue.flushes.get? task ≠ some (.acking ready)) :
    queue.Intact next (ReturnLog.takenBack (account.filterMap (queue.returnMark? other))) := by
  cases answers with
  | @resumes done rest current message _ _ returning sent =>
      have held : queue.returning? task = some (current, message) := by
        simp only [returning?, returning]
      have back : queue.returnMark? other (.answered task (.value ())) =
          some (.returned current message) := by
        simp only [returnMark?, held, Option.map_some]
      have told : ReturnMark.takenBack? (.returned current message) = some current := rfl
      have later := sent.takenBack queue other
      rw [ReturnLog.takenBack] at later ⊢
      rw [List.filterMap_cons_some back, List.filterMap_cons_some told, later]
      exact sound.returned_intact returning sent
  | cuts | idle => exact .of_same rfl rfl rfl rfl
  | accepts acking => exact absurd acking (unaccepted rfl _)
  | fails | panics => exact queue.closeFlush_intact task

/-! ### The lock during an attempt -/

/-- Whether an answer makes the attempt of a flush to transmit fail. A message that cannot be
returned does so if no offset before it is ready. -/
inductive Fails (queue : AckQueue) (task : TaskId) : Answer Unit → Prop
  | returning {current : Int} {rest : List Int} {message : Message}
      (returning : queue.flushes.get? task = some (.returning [] current rest message))
      (fault : Fault) : Fails queue task (.failed fault)
  | acking {ready : List Int} (acking : queue.flushes.get? task = some (.acking ready))
      (fault : Fault) : Fails queue task (.failed fault)
  | panicked (awaits : queue.awaitsAnswer task = true) (text : String) :
      Fails queue task (.panicked text)

/-- An attempt that fails ends its flush. -/
theorem Fails.closes {answer : Answer Unit} (fails : queue.Fails task answer) :
    (queue.answerFlush task answer).queue = (queue.closeFlush task).1 := by
  cases fails with
  | returning returning fault => simp only [answerFlush, returning]; rfl
  | acking acking fault => simp only [answerFlush, acking]; rfl
  | panicked awaits text => rw [answerFlush_panicked awaits text]

/-- What a flush sends next keeps it at the lock. -/
theorem Transmission.sending {done rest : List Int}
    (sent : Transmission queue task done rest account next) :
    ∃ phase, next.flushes.get? task = some phase ∧ phase.isSending = true := by
  cases sent with
  | sendBack | sendAck => exact ⟨_, (Table.get?_set ..).trans (if_pos rfl), rfl⟩

/-- A flush that is closed is no longer among the flushes of its queue. -/
theorem closeFlush_gone (queue : AckQueue) (task : TaskId) :
    (queue.closeFlush task).1.flushes.get? task = none :=
  (Table.get?_erase ..).trans (if_pos rfl)

/-- A flush that is at the lock stays there unless it ends. -/
theorem Proceeds.holds (proceeds : queue.Proceeds task account next)
    (here : queue.flushes.get? task = some phase) (holds : phase.holdsLock = true)
    (left : next.flushes.get? task ≠ none) :
    ∃ after, next.flushes.get? task = some after ∧ after.holdsLock = true := by
  cases proceeds with
  | asks fresh =>
      cases fresh.symm.trans here
      exact absurd holds Bool.false_ne_true
  | sends granted sent =>
      obtain ⟨after, there, sends⟩ := sent.sending
      exact ⟨after, there, after.holdsLock_of_isSending sends⟩
  | leaves => exact absurd (queue.closeFlush_gone task) left
  | idle => exact ⟨phase, here, holds⟩

/-- An answer that accepts no acknowledgment leaves a flush at the lock unless it ends it. -/
theorem Answers.holds {answer : Answer Unit} (answers : queue.Answers task answer account next)
    (unaccepted : answer = .value () → ∀ ready, queue.flushes.get? task ≠ some (.acking ready))
    (here : queue.flushes.get? task = some phase) (holds : phase.holdsLock = true)
    (left : next.flushes.get? task ≠ none) :
    ∃ after, next.flushes.get? task = some after ∧ after.holdsLock = true := by
  cases answers with
  | resumes returning sent =>
      obtain ⟨after, there, sends⟩ := sent.sending
      exact ⟨after, there, after.holdsLock_of_isSending sends⟩
  | cuts => exact ⟨_, (Table.get?_set ..).trans (if_pos rfl), rfl⟩
  | accepts acking => exact absurd acking (unaccepted rfl _)
  | fails | panics => exact absurd (queue.closeFlush_gone task) left
  | idle => exact ⟨phase, here, holds⟩

/-- What the end of a flush does to the lock: the first in line gets it and can go on, and where
nobody is in line it is free for whoever asks. -/
structure PassesLock (queue next : AckQueue) (task : TaskId) : Prop where
  ended : next.flushes.get? task = none
  unheld : next.lock.holder ≠ some task
  unlisted : task ∉ next.lock.line
  passes : queue.lock.holder = some task → next.lock.holder = queue.lock.line.head?
  stays : queue.lock.holder ≠ some task → next.lock.holder = queue.lock.holder
  heir : queue.lock.holder = some task → ∀ other, next.lock.holder = some other →
    next.canProceed other = true
  free : next.lock.holder = none → next.lock.line = [] ∧
    ∀ other, next.flushes.get? other = some .fresh →
      (next.proceedFlush other).queue.lock.holder = some other

/-- **A flush that ends leaves the lock to others.** -/
theorem Turns.closeFlush_passesLock (turns : queue.Turns) (task : TaskId) :
    queue.PassesLock (queue.closeFlush task).1 task := by
  have beside := turns.leaveLock task
  refine ⟨queue.closeFlush_gone task, fun holder => ?_, fun waits => ?_, fun holds => ?_,
    fun elsewhere => ?_, fun holds other holder => ?_, fun free => ⟨?_, fun other fresh => ?_⟩⟩
  · exact ((beside.holder task).mp holder).1 rfl
  · exact ((beside.line task).mp waits).1 rfl
  · change (queue.leaveLock task).1.lock.holder = _
    cases waiting : queue.lock.line with
    | nil =>
        rw [leaveLock_of_line_nil holds waiting]
        rfl
    | cons heir rest =>
        rw [turns.leaveLock_of_line_cons holds waiting]
        rfl
  · change (queue.leaveLock task).1.lock.holder = _
    rw [leaveLock_of_not_holder elsewhere]
    rfl
  · change (queue.leaveLock task).1.lock.holder = some other at holder
    have unlike := ((beside.holder other).mp holder).1
    cases waiting : queue.lock.line with
    | nil =>
        rw [leaveLock_of_line_nil holds waiting] at holder
        exact nomatch holder
    | cons heir rest =>
        have passes := turns.leaveLock_of_line_cons holds waiting
        rw [passes] at holder
        cases holder
        have granted : (queue.closeFlush task).1.flushes.get? other = some .granted := by
          change ((queue.leaveLock task).1.flushes.erase task).get? other = _
          rw [Table.get?_erase, if_neg (Ne.symm unlike), passes, Table.get?_set, if_pos rfl]
        simp only [canProceed, granted]
  · exact beside.taken free
  · exact holder_proceedFlush fresh free

/-! ### Resolutions -/

/-- A resolved entry stays as it is, or is completed. -/
theorem Move.resolved (move : Move queue account next) {offset : Int} {state : AckState}
    (here : queue.stateOf? offset = some state) (settled : state ≠ .pending) :
    next.stateOf? offset = some state ∨ next.stateOf? offset = some .completed := by
  cases move.revises with
  | kept settled queued _ =>
      rw [stateOf?, registered_congr settled queued]
      exact .inl here
  | registers message same =>
      subst same
      unfold AckQueue.register
      split
      · exact .inl here
      · refine .inl ((queue.stateOf?_append _ offset).trans ?_)
        rw [here, Option.some_or]
  | resolves other verdict same =>
      refine .inl ((congrArg (stateOf? · offset) same).trans ?_)
      rw [stateOf?_resolve, if_neg, here]
      rintro ⟨rfl, pending⟩
      exact settled (Option.some.inj (here.symm.trans pending))
  | returns current settled queued _ =>
      have marked := queue.stateOf?_markReturned current offset
      rw [stateOf?, registered_congr settled queued]
      by_cases hit : offset = current
      · rw [if_pos hit, here, Option.map_some] at marked
        exact .inr marked
      · rw [if_neg hit, here] at marked
        exact .inl marked
  | settles entries last settled queued _ =>
      rw [stateOf?, registered_congr settled queued, registered_settle]
      exact .inl here

/-- A settled entry keeps its state over a stride, or is taken back and completed. -/
theorem Stride.resolved (stride : Stride queue account next) {offset : Int} {state : AckState}
    (here : queue.stateOf? offset = some state) (settled : state ≠ .pending) :
    next.stateOf? offset = some state ∨ next.stateOf? offset = some .completed := by
  refine stride.preserves (motive := fun next => next.stateOf? offset = some state ∨
    next.stateOf? offset = some .completed) (fun move before => ?_) (fun _ same => same) (.inl here)
  rcases before with same | completed
  · exact move.resolved same settled
  · exact (move.resolved completed nofun).elim .inr .inr

/-- What was registered and resolved is still there, and those of the failed entries are completed
whose messages, given by their offsets, went back to the broker. -/
structure Keeps (queue next : AckQueue) (back : List Int) : Prop where
  registered : queue.registered.map AckEntry.offset <+: next.registered.map AckEntry.offset
  resolved : ∀ offset state, queue.stateOf? offset = some state → state ≠ .pending →
    next.stateOf? offset = some (if offset ∈ back then .completed else state)

/-- The log of the returns tells which failed entries were completed. -/
theorem Traced.keeps {later : Account} {log more : ReturnLog} (before : queue.Traced account log)
    (after : next.Traced later (log ++ more))
    (registered : queue.registered.map AckEntry.offset <+: next.registered.map AckEntry.offset)
    (resolved : ∀ offset state, queue.stateOf? offset = some state → state ≠ .pending →
      next.stateOf? offset = some state ∨ next.stateOf? offset = some .completed) :
    queue.Keeps next more.takenBack := by
  refine ⟨registered, fun offset state here settled => ?_⟩
  have first := before.states offset
  have last := after.states offset
  rw [ReturnLog.rejections, ReturnLog.returns, List.filterMap_append, List.filterMap_append] at last
  rw [here] at first
  cases state with
  | pending => exact absurd rfl settled
  | completed =>
      rw [ite_self]
      exact (resolved offset _ here settled).elim id id
  | needRetry message =>
      obtain ⟨rejected, unreturned⟩ := first
      rw [← ReturnLog.rejections, ← ReturnLog.returns, rejected, unreturned] at last
      rcases resolved offset _ here settled with same | completed
      · rw [same] at last
        rw [if_neg ((ReturnLog.returns_eq_nil_iff offset more).mp last.2), same]
      · rw [completed] at last
        have back : offset ∈ more.takenBack := Classical.byContradiction fun kept =>
          List.cons_ne_nil _ _
            (last.2.symm.trans ((ReturnLog.returns_eq_nil_iff offset more).mpr kept))
        rw [if_pos back, completed]

end AckQueue

end PullConsumer
