import PullConsumer.Proofs.Queue.Entries

/-! # Turns at the send lock

Who holds the send lock and who waits for it can be read off the phases of the flushes
(`AckQueue.Turns`). The agreement survives every move (`AckQueue.Turns.move`), so that at most one
flush of a queue is between reading the queue and giving the lock back.
-/

namespace PullConsumer

/-- Whether a flush in this phase holds the send lock. -/
def FlushPhase.holdsLock : FlushPhase → Bool
  | .granted | .returning .. | .acking _ => true
  | .fresh | .inLine => false

namespace AckQueue

/-- The lock agrees with the phases of the flushes, a task aside that neither holds it nor waits. -/
structure TurnsBeside (queue : AckQueue) (task : TaskId) : Prop where
  holder : ∀ other, queue.lock.holder = some other ↔
    other ≠ task ∧ ∃ phase, queue.flushes.get? other = some phase ∧ phase.holdsLock = true
  line : ∀ other, other ∈ queue.lock.line ↔
    other ≠ task ∧ queue.flushes.get? other = some .inLine
  distinct : queue.lock.line.Nodup
  taken : queue.lock.holder = none → queue.lock.line = []

/-- The lock agrees with the phases of the flushes. -/
structure Turns (queue : AckQueue) : Prop where
  holder : ∀ task, queue.lock.holder = some task ↔
    ∃ phase, queue.flushes.get? task = some phase ∧ phase.holdsLock = true
  line : ∀ task, task ∈ queue.lock.line ↔ queue.flushes.get? task = some .inLine
  distinct : queue.lock.line.Nodup
  taken : queue.lock.holder = none → queue.lock.line = []

section

variable {queue : AckQueue} {task : TaskId}

/-- A task that does not hold the lock leaves the line at most. -/
theorem leaveLock_of_not_holder (free : queue.lock.holder ≠ some task) :
    (queue.leaveLock task).1 = { queue with lock := queue.lock.withdraw task } := by
  have lock : queue.lock.drop task = queue.lock.withdraw task := if_neg free
  have holder : (queue.lock.withdraw task).holder = queue.lock.holder := rfl
  unfold AckQueue.leaveLock
  simp only [lock, holder]
  cases queue.lock.holder with
  | none => rfl
  | some other => simp only [if_true]

/-- Where nobody waits the holder leaves the lock free. -/
theorem leaveLock_of_line_nil (holds : queue.lock.holder = some task)
    (waiting : queue.lock.line = []) :
    (queue.leaveLock task).1 = { queue with lock := .free } := by
  have lock : queue.lock.drop task = .free := by
    simp only [SendLock.drop, holds, if_true, SendLock.release, SendLock.withdraw, waiting,
      List.filter_nil]
  simp only [AckQueue.leaveLock, lock]
  rfl

end

namespace Turns

variable {queue next : AckQueue} {task : TaskId}

/-- Only one task is in a phase that holds the lock. -/
theorem unique (turns : queue.Turns) {other : TaskId} {first second : FlushPhase}
    (here : queue.flushes.get? task = some first) (holds : first.holdsLock = true)
    (there : queue.flushes.get? other = some second) (too : second.holdsLock = true) :
    task = other := by
  have left := (turns.holder task).mpr ⟨first, here, holds⟩
  have right := (turns.holder other).mpr ⟨second, there, too⟩
  exact Option.some.inj (left.symm.trans right)

/-- A task without a flush neither holds the lock nor waits for it. -/
theorem beside_of_absent (turns : queue.Turns) (absent : queue.flushes.get? task = none) :
    queue.TurnsBeside task where
  holder other := by
    rw [turns.holder other]
    refine ⟨fun ⟨phase, here, holds⟩ => ⟨?_, phase, here, holds⟩, fun both => both.2⟩
    rintro rfl
    exact Option.some_ne_none phase (here.symm.trans absent)
  line other := by
    rw [turns.line other]
    refine ⟨fun waits => ⟨?_, waits⟩, fun both => both.2⟩
    rintro rfl
    exact Option.some_ne_none _ (waits.symm.trans absent)
  distinct := turns.distinct
  taken := turns.taken

/-- A task that leaves the lock to nobody: it waited at most. -/
private theorem leaveLock_waits (turns : queue.Turns)
    (free : queue.lock.holder ≠ some task) : (queue.leaveLock task).1.TurnsBeside task := by
  rw [leaveLock_of_not_holder free]
  constructor
  · intro other
    change queue.lock.holder = some other ↔ _
    rw [turns.holder other]
    refine ⟨fun holds => ⟨?_, holds⟩, fun both => both.2⟩
    rintro rfl
    exact free ((turns.holder other).mpr holds)
  · intro other
    change other ∈ queue.lock.line.filter (· ≠ task) ↔ _
    rw [List.mem_filter, turns.line other, decide_eq_true_eq]
    exact And.comm
  · exact turns.distinct.filter _
  · intro none
    change queue.lock.line.filter (· ≠ task) = []
    rw [turns.taken none, List.filter_nil]

/-- Who does not hold the lock is in no phase that does. -/
theorem others_wait (turns : queue.Turns) (holds : queue.lock.holder = some task)
    {other : TaskId} (different : other ≠ task) {phase : FlushPhase}
    (here : queue.flushes.get? other = some phase) : phase.holdsLock = false := by
  cases too : phase.holdsLock with
  | false => rfl
  | true =>
      have second := (turns.holder other).mpr ⟨phase, here, too⟩
      exact absurd (Option.some.inj (second.symm.trans holds)) different

/-- The holder of the lock does not wait for it. -/
theorem holder_not_mem_line (turns : queue.Turns)
    (holds : queue.lock.holder = some task) : task ∉ queue.lock.line := by
  intro waits
  obtain ⟨phase, here, held⟩ := (turns.holder task).mp holds
  rw [(turns.line task).mp waits] at here
  cases here
  exact Bool.false_ne_true held

/-- The holder hands the lock to the first in line. -/
theorem leaveLock_of_line_cons (turns : queue.Turns) (holds : queue.lock.holder = some task)
    {heir : TaskId} {rest : List TaskId} (waiting : queue.lock.line = heir :: rest) :
    (queue.leaveLock task).1 =
      { queue with lock := ⟨some heir, rest⟩, flushes := queue.flushes.set heir .granted } := by
  have outside := turns.holder_not_mem_line holds
  have different : heir ≠ task := by
    rintro rfl
    exact outside (waiting ▸ List.mem_cons_self)
  have line : (queue.lock.withdraw task).line = queue.lock.line :=
    List.filter_eq_self.mpr fun other member =>
      decide_eq_true fun same => outside (same ▸ member)
  have lock : queue.lock.drop task = (queue.lock.withdraw task).release := if_pos holds
  unfold AckQueue.leaveLock
  simp only [lock, SendLock.release, line, waiting, holds, Option.some.injEq]
  rw [if_neg different.symm]

private theorem leaveLock_free (turns : queue.Turns) (holds : queue.lock.holder = some task)
    (waiting : queue.lock.line = []) : (queue.leaveLock task).1.TurnsBeside task := by
  rw [leaveLock_of_line_nil holds waiting]
  constructor
  · intro other
    constructor
    · exact nofun
    · rintro ⟨different, phase, here, held⟩
      exact absurd ((turns.others_wait holds different here).symm.trans held) Bool.false_ne_true
  · intro other
    refine ⟨nofun, fun ⟨_, waits⟩ => ?_⟩
    have member := (turns.line other).mpr waits
    rw [waiting] at member
    exact absurd member List.not_mem_nil
  · exact List.nodup_nil
  · exact fun _ => rfl

private theorem leaveLock_passes (turns : queue.Turns) (holds : queue.lock.holder = some task)
    {heir : TaskId} {rest : List TaskId} (waiting : queue.lock.line = heir :: rest) :
    (queue.leaveLock task).1.TurnsBeside task := by
  have outside := turns.holder_not_mem_line holds
  have different : heir ≠ task := by
    rintro rfl
    exact outside (waiting ▸ List.mem_cons_self)
  have split := turns.distinct
  rw [waiting, List.nodup_cons] at split
  rw [turns.leaveLock_of_line_cons holds waiting]
  constructor
  · intro other
    simp only [Option.some.injEq, Table.get?_set]
    by_cases same : heir = other
    · subst same
      simp [different, FlushPhase.holdsLock]
    · simp only [same, if_false, false_iff, not_and, not_exists]
      intro unlike phase here
      rw [turns.others_wait holds unlike here]
      exact Bool.false_ne_true
  · intro other
    simp only [Table.get?_set]
    by_cases same : heir = other
    · subst same
      simp [split.1]
    · rw [if_neg same, ← turns.line other, waiting, List.mem_cons]
      constructor
      · intro member
        refine ⟨?_, .inr member⟩
        rintro rfl
        exact outside (waiting ▸ List.mem_cons_of_mem heir member)
      · rintro ⟨_, here | member⟩
        · exact absurd here.symm same
        · exact member
  · exact split.2
  · exact nofun

/-- A task that leaves the lock has no part in it any more. -/
theorem leaveLock (turns : queue.Turns) (task : TaskId) :
    (queue.leaveLock task).1.TurnsBeside task := by
  by_cases holds : queue.lock.holder = some task
  · cases waiting : queue.lock.line with
    | nil => exact turns.leaveLock_free holds waiting
    | cons heir rest => exact turns.leaveLock_passes holds waiting
  · exact turns.leaveLock_waits holds

end Turns

namespace TurnsBeside

variable {queue : AckQueue} {task : TaskId}

/-- A task without a part in the lock can be dropped. -/
theorem erase (beside : queue.TurnsBeside task) :
    Turns { queue with flushes := queue.flushes.erase task } where
  holder other := by
    change queue.lock.holder = some other ↔ _
    rw [beside.holder other]
    simp only [Table.get?_erase]
    by_cases same : task = other
    · simp [same]
    · simp [same, Ne.symm same]
  line other := by
    change other ∈ queue.lock.line ↔ _
    rw [beside.line other]
    simp only [Table.get?_erase]
    by_cases same : task = other
    · simp [same]
    · simp [same, Ne.symm same]
  distinct := beside.distinct
  taken := beside.taken

/-- A task without a part in the lock can begin anew. -/
theorem setFresh (beside : queue.TurnsBeside task) :
    Turns { queue with flushes := queue.flushes.set task .fresh } where
  holder other := by
    change queue.lock.holder = some other ↔ _
    rw [beside.holder other]
    simp only [Table.get?_set]
    by_cases same : task = other
    · simp [same, FlushPhase.holdsLock]
    · simp [same, Ne.symm same]
  line other := by
    change other ∈ queue.lock.line ↔ _
    rw [beside.line other]
    simp only [Table.get?_set]
    by_cases same : task = other
    · simp [same]
    · simp [same, Ne.symm same]
  distinct := beside.distinct
  taken := beside.taken

end TurnsBeside

namespace Turns

variable {queue next : AckQueue} {task : TaskId}

/-- The holder of the lock may change its phase as long as it keeps the lock. -/
theorem setPhase (turns : queue.Turns) {before after : FlushPhase}
    (here : queue.flushes.get? task = some before) (held : before.holdsLock = true)
    (holds : after.holdsLock = true) : (queue.setPhase task after).Turns where
  holder other := by
    change queue.lock.holder = some other ↔ _
    rw [turns.holder other]
    simp only [AckQueue.setPhase, Table.get?_set]
    by_cases same : task = other
    · subst same
      simp [here, held, holds]
    · rw [if_neg same]
  line other := by
    change other ∈ queue.lock.line ↔ _
    rw [turns.line other]
    simp only [AckQueue.setPhase, Table.get?_set]
    by_cases same : task = other
    · subst same
      rw [if_pos rfl, here, Option.some.injEq, Option.some.injEq]
      constructor
      · rintro rfl
        exact absurd held Bool.false_ne_true
      · rintro rfl
        exact absurd holds Bool.false_ne_true
    · rw [if_neg same]
  distinct := turns.distinct
  taken := turns.taken

/-- The turns stay in order when a task asks for the lock: it gets it or waits in line. -/
theorem requestLock (turns : queue.Turns) (fresh : queue.flushes.get? task = some .fresh) :
    (queue.proceedFlush task).queue.Turns := by
  cases held : queue.lock.holder with
  | none =>
      have next : (queue.proceedFlush task).queue =
          { queue with lock := ⟨some task, []⟩, flushes := queue.flushes.set task .granted } := by
        simp only [proceedFlush, fresh, SendLock.request, held, if_true, turns.taken held]
      rw [next]
      constructor
      · intro other
        simp only [Option.some.injEq, Table.get?_set]
        by_cases same : task = other
        · simp [same, FlushPhase.holdsLock]
        · rw [if_neg same, ← turns.holder other, held]
          simp [same]
      · intro other
        simp only [Table.get?_set]
        by_cases same : task = other
        · simp [same]
        · rw [if_neg same, ← turns.line other, turns.taken held]
      · exact List.nodup_nil
      · exact fun _ => rfl
  | some holder =>
      have different : holder ≠ task := by
        rintro rfl
        obtain ⟨phase, here, holds⟩ := (turns.holder holder).mp held
        rw [fresh] at here
        cases here
        exact Bool.false_ne_true holds
      have next : (queue.proceedFlush task).queue =
          { queue with
            lock := ⟨some holder, queue.lock.line ++ [task]⟩
            flushes := queue.flushes.set task .inLine } := by
        simp only [proceedFlush, fresh, SendLock.request, held, Option.some.injEq]
        rw [if_neg different]
      rw [next]
      constructor
      · intro other
        change some holder = some other ↔ _
        rw [← held, turns.holder other]
        simp only [Table.get?_set]
        by_cases same : task = other
        · subst same
          simp [fresh, FlushPhase.holdsLock]
        · rw [if_neg same]
      · intro other
        simp only [Table.get?_set, List.mem_append, List.mem_singleton]
        by_cases same : task = other
        · simp [same]
        · rw [if_neg same, ← turns.line other]
          simp [Ne.symm same]
      · refine List.nodup_append.mpr ⟨turns.distinct, List.pairwise_singleton _ task, ?_⟩
        intro other member last here same
        rw [List.mem_singleton.mp here] at same
        have waits := (turns.line other).mp member
        rw [same, fresh] at waits
        cases waits
      · exact fun free => absurd free (Option.some_ne_none holder)

/-- The turns stay in order when the holder of the lock sends something: it keeps the lock. -/
theorem transmission (turns : queue.Turns) {before : FlushPhase}
    (here : queue.flushes.get? task = some before) (held : before.holdsLock = true)
    {done rest : List Int} {account : Account}
    (sent : Transmission queue task done rest account next) : next.Turns := by
  cases sent with
  | sendBack passed current later message split kept nacked => exact turns.setPhase here held rfl
  | sendAck kept => exact turns.setPhase here held rfl

/-- Turns depend on the lock and on the flushes only. -/
theorem of_same (turns : queue.Turns) (lock : next.lock = queue.lock)
    (flushes : next.flushes = queue.flushes) : next.Turns := by
  constructor
  · intro task
    rw [lock, flushes]
    exact turns.holder task
  · intro task
    rw [lock, flushes]
    exact turns.line task
  · rw [lock]
    exact turns.distinct
  · rw [lock]
    exact turns.taken

/-- **Turns.** Every move keeps the lock in agreement with the phases of the flushes. -/
theorem move (turns : queue.Turns) {account : Account} (move : Move queue account next) :
    next.Turns := by
  cases move with
  | register message =>
      unfold AckQueue.register
      split
      · exact turns
      · exact turns.of_same rfl rfl
  | resolve offset verdict =>
      unfold AckQueue.resolve
      split
      · exact turns.of_same rfl rfl
      · exact turns
  | background changed =>
      obtain ⟨_, _, _, _, rfl⟩ := changed.rest
      exact turns.of_same rfl rfl
  | requestLock task fresh => exact turns.requestLock fresh
  | startRound task granted some sent => exact turns.transmission granted rfl sent
  | returned task done current rest message returning sent =>
      have changed : (queue.changeEntry current AckEntry.markReturned).Turns :=
        turns.of_same rfl rfl
      exact changed.transmission returning rfl sent
  | cut task done current rest message fault returning nonempty =>
      exact turns.setPhase returning rfl rfl
  | accepted task ready acking =>
      have settled : (queue.settle ready.length (ready.getLastD 0)).Turns := turns.of_same rfl rfl
      exact (settled.leaveLock task).setFresh
  | broken task answer awaits unaccepted => exact (turns.leaveLock task).erase
  | leave task => exact (turns.leaveLock task).erase

/-- The turns stay in order when a flush is opened: it takes no part in the lock yet. -/
theorem openFlush (turns : queue.Turns) (absent : queue.flushes.get? task = none) :
    (queue.openFlush task).Turns :=
  (turns.beside_of_absent absent).setFresh

/-- The free lock of a fresh queue, which has no flush, keeps the turns. -/
theorem ofAssignment (assignment : Assignment) (settings : Settings) :
    (AckQueue.ofAssignment assignment settings).Turns := by
  constructor
  · intro task
    exact ⟨nofun, fun ⟨_, here, _⟩ => nomatch here⟩
  · intro task
    exact ⟨nofun, nofun⟩
  · exact List.nodup_nil
  · exact fun _ => rfl

end Turns

end AckQueue

end PullConsumer
