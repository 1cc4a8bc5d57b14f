import PullConsumer.Proofs.Queue.Exchanges
import PullConsumer.Proofs.Queue.Pending

/-! # How a flush comes to its end

Where all entries are resolved and the broker accepts what it is asked, a flush comes to its end.
Each step of the flush at the lock brings it nearer (`AckQueue.Sound.advances`): the queue gets
shorter, or fewer flushes are ahead of it at the lock, or the holder of the lock is further in its
round.
-/

namespace PullConsumer

/-- A bound on the steps that a flush at the lock takes until an acknowledgment is accepted or it
ends. -/
def FlushPhase.steps (entries : Nat) : FlushPhase → Nat
  | .returning _ _ rest _ => rest.length + 2
  | .acking _ => 1
  | _ => entries + 2

namespace AckQueue

variable {queue middle next : AckQueue} {account : Account} {task other : TaskId}
  {phase : FlushPhase}

/-- How far the round at the lock has come. -/
def stage (queue : AckQueue) : Nat :=
  match queue.lock.holder with
  | none => queue.queued.length + 3
  | some holder => ((queue.flushes.get? holder).map (FlushPhase.steps queue.queued.length)).getD 0

/-- How many flushes are in line, with the one at the lock if a flush has not asked for it yet. -/
def ahead (queue : AckQueue) (task : TaskId) : Nat :=
  queue.lock.line.length +
    if queue.lock.holder.isSome ∧ queue.flushes.get? task = some .fresh then 1 else 0

/-- A flush is nearer to its end. -/
inductive Nearer (queue next : AckQueue) (task : TaskId) : Prop
  | shorter (less : next.queued.length < queue.queued.length)
  | turn (length : next.queued.length = queue.queued.length)
      (less : next.ahead task < queue.ahead task)
  | stage (length : next.queued.length = queue.queued.length)
      (turn : next.ahead task = queue.ahead task) (less : next.stage < queue.stage)

/-- The stage of a queue is that of the flush that holds the lock. -/
theorem stage_of_holder (holds : queue.lock.holder = some other)
    (here : queue.flushes.get? other = some phase) :
    queue.stage = phase.steps queue.queued.length := by
  simp only [stage, holds, here, Option.map_some, Option.getD_some]

/-- Sending something brings the holder of the lock further in its round. -/
theorem Transmission.nearer {done rest : List Int}
    (sent : Transmission middle other done rest account next) (lock : middle.lock = queue.lock)
    (flushes : middle.flushes = queue.flushes)
    (length : middle.queued.length = queue.queued.length)
    (holds : queue.lock.holder = some other) (here : queue.flushes.get? other = some phase)
    (asked : phase.holdsLock = true) (room : rest.length + 2 ≤ queue.stage) (task : TaskId) :
    queue.Nearer next task := by
  obtain ⟨after, there, sends, short⟩ : ∃ after, next.flushes.get? other = some after ∧
      after.isSending = true ∧ after.steps next.queued.length < rest.length + 2 := by
    cases sent with
    | sendBack passed current later message split kept nacked =>
        refine ⟨_, (Table.get?_set ..).trans (if_pos rfl), rfl, ?_⟩
        rw [FlushPhase.steps, split, List.length_append, List.length_cons]
        omega
    | sendAck kept =>
        exact ⟨_, (Table.get?_set ..).trans (if_pos rfl), rfl, Nat.succ_lt_succ (Nat.succ_pos _)⟩
  have elsewhere : ∀ task, other ≠ task → next.flushes.get? task = queue.flushes.get? task :=
    fun task different => (sent.elsewhere different).trans (congrArg _ flushes)
  obtain ⟨_, rest'⟩ := sent.rest
  have lock' : next.lock = queue.lock := by
    rw [rest']
    exact lock
  have length' : next.queued.length = queue.queued.length := by
    rw [rest']
    exact length
  refine .stage length' ?_ ?_
  · have fresh : next.flushes.get? task = some .fresh ↔ queue.flushes.get? task = some .fresh := by
      by_cases same : other = task
      · subst same
        rw [there, here]
        constructor
        · rintro ⟨⟩
          exact absurd sends Bool.false_ne_true
        · rintro ⟨⟩
          exact absurd asked Bool.false_ne_true
      · rw [elsewhere task same]
    simp only [ahead, lock', fresh]
  · rw [stage_of_holder (lock' ▸ holds) there]
    exact Nat.lt_of_lt_of_le short room

/-- A flush that gets the free lock. -/
theorem proceedFlush_nearer (turns : queue.Turns)
    (here : queue.flushes.get? task = some phase) (free : queue.lock.holder = none) :
    queue.Nearer (queue.proceedFlush task).queue task ∧ (queue.proceedFlush task).ended = none := by
  obtain rfl := turns.fresh_of_free free here
  have gets : queue.lock.request task = { queue.lock with holder := some task } := by
    simp only [SendLock.request, free]
  simp only [proceedFlush, here, gets, if_true]
  refine ⟨.stage rfl ?_ ?_, trivial⟩
  · simp [ahead, free]
  · simp [stage, free, FlushPhase.steps]

/-- A flush that ends at the lock makes way for another one. -/
theorem Turns.closeFlush_nearer (turns : queue.Turns) (holds : queue.lock.holder = some other)
    (here : queue.flushes.get? task = some phase) (different : other ≠ task) :
    queue.Nearer (queue.closeFlush other).1 task := by
  have length : (queue.closeFlush other).1.queued.length = queue.queued.length := by
    obtain ⟨_, _, rest⟩ := queue.closeFlush_rest other
    rw [rest]
  refine .turn length ?_
  cases waiting : queue.lock.line with
  | nil =>
      -- Who neither holds the lock nor waits in line is about to ask for it.
      have fresh : phase = .fresh := by
        have waits := turns.others_wait holds (Ne.symm different) here
        cases phase with
        | fresh => rfl
        | inLine =>
            have inside := (turns.line task).mpr here
            rw [waiting] at inside
            cases inside
        | granted | returning | acking => cases waits
      subst fresh
      simp [ahead, closeFlush, leaveLock_of_line_nil holds waiting, SendLock.free,
        waiting, holds, here]
  | cons heir rest =>
      have passes := turns.leaveLock_of_line_cons holds waiting
      have fresh : (queue.closeFlush other).1.flushes.get? task = some .fresh →
          queue.flushes.get? task = some .fresh := by
        intro there
        simp only [closeFlush, passes, Table.get?_erase, if_neg different, Table.get?_set] at there
        split at there
        · cases there
        · exact there
      have line : (queue.closeFlush other).1.lock = ⟨some heir, rest⟩ := by
        simp only [closeFlush, passes]
      simp only [ahead, line, waiting, holds, Option.isSome_some, true_and, List.length_cons]
      by_cases asks : (queue.closeFlush other).1.flushes.get? task = some .fresh
      · rw [if_pos asks, if_pos (fresh asks)]
        omega
      · rw [if_neg asks]
        omega

/-! ### The end of a flush -/

/-- Where all entries are resolved, a flush ends by itself for want of entries only. -/
theorem Resolved.proceedFlush_ended (resolved : queue.Resolved) (ordered : queue.Ordered)
    {ended : FlushEnd} (ends : (queue.proceedFlush task).ended = some ended) :
    queue.queued = [] ∧ (queue.proceedFlush task).queue = (queue.closeFlush task).1 ∧
      ended = .outcome .drained := by
  have whole := resolved.readyOffsets ordered
  revert ends
  unfold proceedFlush
  split
  · exact nofun
  · split
    · rename_i none
      rw [none] at whole
      have empty := List.map_eq_nil_iff.mp whole.symm
      obtain ⟨_, _, rest⟩ := queue.closeFlush_rest task
      have outstanding : (queue.closeFlush task).1.outstanding = 0 := by
        rw [rest]
        exact congrArg List.length empty
      intro ends
      refine ⟨empty, rfl, ?_⟩
      rw [← Option.some.inj ends, restOutcome, if_pos outstanding]
    · rw [(queue.transmit_sends task [] _).2]
      exact nofun
  · exact nofun

/-- A flush goes on when its call is accepted. -/
theorem answerFlush_accepted (queue : AckQueue) (task : TaskId) :
    (queue.answerFlush task (.value ())).ended = none := by
  cases here : queue.flushes.get? task with
  | none => simp only [answerFlush, here]
  | some phase =>
      cases phase with
      | fresh | inLine | granted | acking => simp only [answerFlush, here]
      | returning done current rest message =>
          simp only [answerFlush, here]
          exact (transmit_sends _ task _ _).2

/-! ### Progress -/

/-- A step of a flush that ends a given flush or brings it nearer to its end. -/
structure Advances (queue : AckQueue) (task other : TaskId) (step : FlushStep) : Prop where
  taken : step = queue.proceedFlush other ∨ step = queue.answerFlush other (.value ())
  runs : (queue.flushes.get? other).isSome = true
  nearer : other = task ∧ step.ended ≠ none ∨
    queue.Nearer step.queue task ∧ (other = task → step.ended = none)

/-- A flush that has just got the lock sends what is queued, or makes way for another one. -/
theorem Sound.advances_of_granted (sound : queue.Sound) (resolved : queue.Resolved)
    (here : queue.flushes.get? task = some phase) (holds : queue.lock.holder = some other)
    (granted : queue.flushes.get? other = some .granted) :
    queue.Advances task other (queue.proceedFlush other) := by
  refine ⟨.inl rfl, by rw [granted]; rfl, ?_⟩
  have whole := resolved.readyOffsets sound.ordered
  cases queued : queue.queued with
  | nil =>
      rw [queued, List.map_nil] at whole
      have closes : (queue.proceedFlush other).queue = (queue.closeFlush other).1 ∧
          (queue.proceedFlush other).ended ≠ none := by
        simp only [proceedFlush, granted, whole, true_and]
        exact Option.some_ne_none _
      by_cases same : other = task
      · exact .inl ⟨same, closes.2⟩
      · rw [closes.1]
        exact .inr ⟨sound.turns.closeFlush_nearer holds here same, fun own => absurd own same⟩
  | cons first rest =>
      have sends : queue.proceedFlush other = queue.transmit other [] queue.readyOffsets := by
        simp only [proceedFlush, granted, whole, queued, List.map_cons]
      obtain ⟨sent, goes⟩ := queue.transmit_sends other [] queue.readyOffsets
      rw [sends]
      refine .inr ⟨sent.nearer rfl rfl rfl holds granted rfl ?_ task, fun _ => goes⟩
      rw [stage_of_holder holds granted, whole, List.length_map]
      exact Nat.le_refl _

/-- A call of the flush at the lock that is accepted shortens the queue or the rest of the round. -/
theorem Sound.advances_of_sending (sound : queue.Sound) {held : FlushPhase}
    (holds : queue.lock.holder = some other) (there : queue.flushes.get? other = some held)
    (sends : held.isSending = true) :
    queue.Advances task other (queue.answerFlush other (.value ())) := by
  refine ⟨.inr rfl, by rw [there]; rfl, .inr ⟨?_, fun _ => queue.answerFlush_accepted other⟩⟩
  cases held with
  | fresh | inLine | granted => exact absurd sends Bool.false_ne_true
  | returning done current rest message =>
      have sent := ((queue.changeEntry current AckEntry.markReturned).transmit_sends other
        (done ++ [current]) rest).1
      have lock : (queue.changeEntry current AckEntry.markReturned).lock = queue.lock := rfl
      have length : (queue.changeEntry current AckEntry.markReturned).queued.length =
          queue.queued.length := List.length_map ..
      simp only [answerFlush, there]
      exact sent.nearer lock rfl length holds there rfl
        (Nat.le_of_eq (stage_of_holder holds there).symm) task
  | acking ready =>
      have removes := sound.removes there List.prefix_rfl
      refine .shorter ?_
      have some := removes.nonempty
      have enough := removes.present
      rw [removes.queued, List.length_drop]
      omega

/-- **Progress.** Where all entries are resolved, the flush at the lock, or else the flush itself,
has a step that ends the flush or brings it nearer to its end. -/
theorem Sound.advances (sound : queue.Sound) (resolved : queue.Resolved)
    (here : queue.flushes.get? task = some phase) :
    ∃ other step, queue.Advances task other step := by
  cases holds : queue.lock.holder with
  | none =>
      obtain ⟨nearer, goes⟩ := proceedFlush_nearer sound.turns here holds
      exact ⟨task, _, .inl rfl, by rw [here]; rfl, .inr ⟨nearer, fun _ => goes⟩⟩
  | some other =>
      obtain ⟨held, there, asked⟩ := (sound.turns.holder other).mp holds
      cases held with
      | fresh | inLine => exact absurd asked Bool.false_ne_true
      | granted => exact ⟨other, _, sound.advances_of_granted resolved here holds there⟩
      | returning | acking => exact ⟨other, _, sound.advances_of_sending holds there rfl⟩

end AckQueue

end PullConsumer
