import PullConsumer.Proofs.Queue.Progress
import PullConsumer.Proofs.Queue.Returns

/-! # A flush by itself

A flush that has its queue for itself goes through its rounds one after the other, and the broker
accepts its calls or lets them fail (`LoneFlush`). Each of its steps is one of a few turns
(`LoneFlush.Turn`). Every round but the last takes something off the queue, so that the flush comes
to its end after as many rounds as there were entries, and one more (`LoneFlush.Steady.ended`).
-/

namespace PullConsumer

/-- The calls that an account reports, in order. -/
def Account.calls (account : Account) : List Call :=
  account.filterMap Mark.call?

theorem Account.calls_append (first second : Account) :
    Account.calls (first ++ second) = first.calls ++ second.calls :=
  List.filterMap_append

/-- The last call of a round failed, and the round with it. -/
def Account.Fails (round : Account) : Prop :=
  ∃ exchange earlier fault, round.latest = exchange :: earlier ∧
    exchange.answer = some (.failed fault)

/-- Nothing is ready where the first entry is pending, or there is none. -/
theorem AckQueue.readyOffsets_eq_nil_iff (queue : AckQueue) : queue.readyOffsets = [] ↔
    ∀ first rest, queue.queued = first :: rest → first.state = .pending := by
  cases queued : queue.queued with
  | nil => simp only [readyOffsets, queued, List.takeWhile_nil, List.map_nil, reduceCtorEq,
      false_implies, implies_true]
  | cons entry later =>
      have first : (∀ first rest, entry :: later = first :: rest → first.state = .pending) ↔
          entry.state = .pending :=
        ⟨fun pending => pending entry later rfl, fun pending first rest same => by
          cases same
          exact pending⟩
      rw [first, readyOffsets, queued, List.map_eq_nil_iff, List.takeWhile_cons]
      cases entry.state <;> simp [AckState.isPending]

/-- A flush that waits for an answer has a resolved entry at the front of its queue. -/
theorem AckQueue.Sound.readyOffsets_ne_nil {queue : AckQueue} (sound : queue.Sound) {task : TaskId}
    {phase : FlushPhase} (here : queue.flushes.get? task = some phase)
    (sending : phase.isSending = true) : queue.readyOffsets ≠ [] := by
  -- The first offset in hand is the first of the queue.
  obtain ⟨offset, more, state, front, found, settled⟩ : ∃ offset more state,
      offset :: more <+: queue.queued.map AckEntry.offset ∧
        queue.stateOf? offset = some state ∧ state ≠ .pending := by
    have fits := sound.fits task phase here
    cases phase with
    | fresh | inLine | granted => exact absurd sending Bool.false_ne_true
    | returning done current rest message =>
        obtain ⟨front, completed, nacked, _⟩ := fits
        cases done with
        | nil => exact ⟨current, rest, _, front, nacked, nofun⟩
        | cons first more =>
            exact ⟨first, _, _, front, completed first List.mem_cons_self, nofun⟩
    | acking ready =>
        obtain ⟨nonempty, front, completed⟩ := fits
        cases ready with
        | nil => exact absurd rfl nonempty
        | cons first more =>
            exact ⟨first, more, _, front, completed first List.mem_cons_self, nofun⟩
  intro unready
  have first := (queue.readyOffsets_eq_nil_iff).mp unready
  cases queued : queue.queued with
  | nil =>
      rw [queued] at front
      exact absurd (List.prefix_nil.mp front) (List.cons_ne_nil _ _)
  | cons entry later =>
      rw [queued, List.map_cons, List.cons_prefix_cons] at front
      have listed : entry ∈ queue.registered :=
        List.mem_append_right _ (queued ▸ List.mem_cons_self)
      have same := sound.ordered.stateOf?_of_mem listed
      rw [← front.1, found, Option.some.injEq] at same
      exact settled (same.trans (first entry later queued))

/-- How far a flush is from the next acknowledgment. -/
def AckQueue.toGo (queue : AckQueue) (task : TaskId) : Nat :=
  match queue.flushes.get? task with
  | some .fresh => queue.queued.length + 3
  | some phase => phase.steps queue.queued.length
  | none => 0

/-- What is sent next is nearer to the next acknowledgment. -/
theorem AckQueue.Transmission.toGo_lt {queue next : AckQueue} {task : TaskId} {done rest : List Int}
    {account : Account} (sent : queue.Transmission task done rest account next) :
    next.queued.length = queue.queued.length ∧ next.toGo task < rest.length + 2 := by
  cases sent with
  | sendBack passed current later message split kept nacked =>
      simp only [toGo, setPhase, Table.get?_set, if_true, FlushPhase.steps, split,
        List.length_append, List.length_cons, true_and]
      omega
  | sendAck kept =>
      simp only [toGo, setPhase, Table.get?_set, if_true, FlushPhase.steps, true_and]
      omega

/-- A flush that has made a call waits for its answer. -/
theorem AckQueue.Transmission.canProceed {queue next : AckQueue} {task : TaskId}
    {done rest : List Int} {account : Account}
    (sent : queue.Transmission task done rest account next) : next.canProceed task = false := by
  cases sent with
  | sendBack | sendAck => simp only [AckQueue.canProceed, setPhase, Table.get?_set, if_true]

/-- A flush that waits for an answer cannot proceed. -/
theorem AckQueue.canProceed_of_isSending {queue : AckQueue} {task : TaskId} {phase : FlushPhase}
    (here : queue.flushes.get? task = some phase) (sending : phase.isSending = true) :
    queue.canProceed task = false := by
  cases phase with
  | fresh | inLine | granted => exact absurd sending Bool.false_ne_true
  | returning | acking => simp only [canProceed, here]

/-- A flush that has its queue for itself: the queue, what has passed in each of its rounds, the
latest round first, and how the flush has ended. -/
structure LoneFlush where
  queue : AckQueue
  rounds : List Account
  ended : Option FlushEnd

/-- How the broker answers the next call, given what has passed so far: it accepts the call, or
there is a fault. -/
abbrev Script := List Account → Option Fault

namespace LoneFlush

/-- The flush at its start. -/
def begin (queue : AckQueue) (task : TaskId) : LoneFlush :=
  ⟨queue.openFlush task, [], none⟩

def answerOf : Option Fault → Answer Unit
  | none => .value ()
  | some fault => .failed fault

/-- Adds lines to the latest round. -/
def enter (marks : Account) : List Account → List Account
  | [] => []
  | round :: earlier => (round ++ marks) :: earlier

/-- What the flush does next: it takes the answer to its call, or goes on by itself. -/
def step (script : Script) (task : TaskId) (flush : LoneFlush) : FlushStep :=
  if flush.queue.awaitsAnswer task then
    flush.queue.answerFlush task (answerOf (script flush.rounds))
  else flush.queue.proceedFlush task

/-- The flush after its next step. A round begins where it looks at the queue under the lock. -/
def next (script : Script) (task : TaskId) (flush : LoneFlush) : LoneFlush :=
  let rounds :=
    if flush.queue.flushes.get? task = some .granted then [] :: flush.rounds else flush.rounds
  let step := flush.step script task
  ⟨step.queue, enter (.ofEffects step.effects) rounds, step.ended⟩

/-- The flush after so many steps, or at its end. -/
def run (script : Script) (task : TaskId) : Nat → LoneFlush → LoneFlush
  | 0, flush => flush
  | steps + 1, flush =>
    match flush.ended with
    | some _ => flush
    | none => run script task steps (flush.next script task)

variable {flush after : LoneFlush} {script : Script} {task : TaskId} {phase : FlushPhase}
  {start : AckQueue}

/-! ### Turns -/

/-- What a step of a flush does that has its queue for itself. -/
inductive Turn (task : TaskId) (flush : LoneFlush) : LoneFlush → Prop
  /-- It gets the lock. -/
  | asks (lock : SendLock) (fresh : flush.queue.flushes.get? task = some .fresh) :
      Turn task flush ⟨{ flush.queue with
        lock := lock, flushes := flush.queue.flushes.set task .granted }, flush.rounds, none⟩
  /-- A round finds nothing to send, and the flush ends. -/
  | rests (granted : flush.queue.flushes.get? task = some .granted)
      (none : flush.queue.readyOffsets = []) :
      Turn task flush ⟨(flush.queue.closeFlush task).1, [] :: flush.rounds,
        some (.outcome (flush.queue.closeFlush task).1.restOutcome)⟩
  /-- A round makes its first call. -/
  | begins {round : Account} {queue : AckQueue}
      (granted : flush.queue.flushes.get? task = some .granted)
      (some : flush.queue.readyOffsets ≠ [])
      (sent : flush.queue.Transmission task [] flush.queue.readyOffsets round queue) :
      Turn task flush ⟨queue, round :: flush.rounds, none⟩
  /-- A message is back at the broker, and the round goes on. -/
  | resumes {done rest : List Int} {current : Int} {message : Message} {marks : Account}
      {queue : AckQueue}
      (returning : flush.queue.flushes.get? task = some (.returning done current rest message))
      (sent : (flush.queue.changeEntry current AckEntry.markReturned).Transmission task
        (done ++ [current]) rest marks queue) :
      Turn task flush
        ⟨queue, enter (.answered task (.value ()) :: marks) flush.rounds, none⟩
  /-- A message could not be returned: what is ready before it is acknowledged. -/
  | cuts {done rest : List Int} {current : Int} {message : Message} (fault : Fault)
      (returning : flush.queue.flushes.get? task = some (.returning done current rest message))
      (nonempty : done ≠ []) :
      Turn task flush ⟨flush.queue.setPhase task (.acking done),
        enter [.answered task (.failed fault),
          .called task (.sendAck flush.queue.assignment.brokerGroup (flush.queue.ackRequest done))]
          flush.rounds, none⟩
  /-- An acknowledgment ends the round. -/
  | settles {ready : List Int} (acking : flush.queue.flushes.get? task = some (.acking ready)) :
      Turn task flush
        ⟨((flush.queue.settle ready.length (ready.getLastD 0)).endRound task).1,
          enter [.answered task (.value ())] flush.rounds, none⟩
  /-- A failed call ends the flush. -/
  | fails {phase : FlushPhase} (fault : Fault) (here : flush.queue.flushes.get? task = some phase)
      (sending : phase.isSending = true) :
      Turn task flush
        ⟨(flush.queue.closeFlush task).1, enter [.answered task (.failed fault)] flush.rounds,
          some (.outcome (.failed (flush.queue.closeFlush task).1.outstanding))⟩

/-- A flush that waits for an answer takes the one that its script has for the round. -/
theorem next_of_waiting
    (here : flush.queue.flushes.get? task = some phase) (sending : phase.isSending = true) :
    flush.next script task =
      ⟨(flush.queue.answerFlush task (answerOf (script flush.rounds))).queue,
        enter (.ofEffects (flush.queue.answerFlush task (answerOf (script flush.rounds))).effects)
          flush.rounds,
        (flush.queue.answerFlush task (answerOf (script flush.rounds))).ended⟩ := by
  cases phase with
  | fresh | inLine | granted => exact absurd sending Bool.false_ne_true
  | returning | acking =>
      simp only [LoneFlush.next, step, here, AckQueue.awaitsAnswer, if_true, reduceCtorEq,
        Option.some.injEq, if_false]

/-- A flush that was granted the lock begins its next round. -/
theorem next_of_granted
    (granted : flush.queue.flushes.get? task = some .granted) :
    flush.next script task = ⟨(flush.queue.proceedFlush task).queue,
      Account.ofEffects (flush.queue.proceedFlush task).effects :: flush.rounds,
      (flush.queue.proceedFlush task).ended⟩ := by
  simp only [LoneFlush.next, step, granted, AckQueue.awaitsAnswer, Bool.false_eq_true,
    if_false, if_true, enter, List.nil_append]

/-- A step of a flush that finds the lock free is a turn. -/
theorem turn_next (here : flush.queue.flushes.get? task = some phase)
    (placed : phase ≠ .inLine) (free : phase = .fresh → flush.queue.lock.holder = none) :
    flush.Turn task (flush.next script task) := by
  cases phase with
  | inLine => exact absurd rfl placed
  | fresh =>
      have gets : flush.next script task =
          ⟨{ flush.queue with
              lock := { flush.queue.lock with holder := some task }
              flushes := flush.queue.flushes.set task .granted }, enter [] flush.rounds, none⟩ := by
        simp only [LoneFlush.next, step, here, AckQueue.awaitsAnswer, Bool.false_eq_true,
          if_false, AckQueue.proceedFlush, SendLock.request, free rfl, if_true, Account.ofEffects,
          List.filterMap_nil, reduceCtorEq, Option.some.injEq]
      have same : enter [] flush.rounds = flush.rounds := by
        cases flush.rounds with
        | nil => rfl
        | cons round earlier => rw [enter, List.append_nil]
      rw [gets, same]
      exact .asks _ here
  | granted =>
      rw [next_of_granted here]
      by_cases ready : flush.queue.readyOffsets = []
      · have ends : flush.queue.proceedFlush task = ⟨(flush.queue.closeFlush task).1,
            (flush.queue.closeFlush task).2,
            some (.outcome (flush.queue.closeFlush task).1.restOutcome)⟩ := by
          simp only [AckQueue.proceedFlush, here, ready]
        rw [ends, AckQueue.ofEffects_closeFlush]
        exact .rests here ready
      · have sends : flush.queue.proceedFlush task =
            flush.queue.transmit task [] flush.queue.readyOffsets := by
          simp only [AckQueue.proceedFlush, here]
        obtain ⟨sent, goes⟩ := flush.queue.transmit_sends task [] flush.queue.readyOffsets
        rw [sends, goes]
        exact .begins here ready sent
  | returning done current rest message =>
      rw [next_of_waiting here rfl]
      cases script flush.rounds with
      | none =>
          obtain ⟨sent, goes⟩ := (flush.queue.changeEntry current
            AckEntry.markReturned).transmit_sends task (done ++ [current]) rest
          simp only [answerOf, AckQueue.answerFlush, here, FlushStep.after, goes,
            Account.ofEffects_append]
          exact .resumes here sent
      | some fault =>
          cases done with
          | nil =>
              simp only [answerOf, AckQueue.answerFlush, here, FlushStep.after, List.isEmpty_nil,
                if_true, Account.ofEffects_append, AckQueue.ofEffects_failFlush]
              exact .fails fault here rfl
          | cons first more =>
              simp only [answerOf, AckQueue.answerFlush, here, FlushStep.after, List.isEmpty_cons,
                Bool.false_eq_true, if_false]
              exact .cuts fault here (List.cons_ne_nil _ _)
  | acking ready =>
      rw [next_of_waiting here rfl]
      cases script flush.rounds with
      | none =>
          simp only [answerOf, AckQueue.answerFlush, here, Account.ofEffects_append,
            AckQueue.ofEffects_endRound]
          exact .settles here
      | some fault =>
          simp only [answerOf, AckQueue.answerFlush, here, FlushStep.after,
            Account.ofEffects_append, AckQueue.ofEffects_failFlush]
          exact .fails fault here rfl

/-- A step of the flush follows its queue. -/
theorem step_follows (turns : flush.queue.Turns) :
    (flush.step script task).Follows flush.queue task := by
  unfold step
  split
  · exact turns.answerFlush_follows task _
  · exact turns.proceedFlush_follows task

/-! ### The invariant -/

/-- How a flush ends that has its queue for itself. -/
inductive Ends (flush : LoneFlush) : FlushEnd → Prop
  /-- The last round has nothing to send and makes no call. -/
  | rested (unready : flush.queue.readyOffsets = []) (silent : flush.rounds.head? = some []) :
      Ends flush (.outcome flush.queue.restOutcome)
  /-- The last call of the last round fails. -/
  | failed {round : Account} (ready : flush.queue.readyOffsets ≠ [])
      (last : flush.rounds.head? = some round) (fails : round.Fails) :
      Ends flush (.outcome (.failed flush.queue.outstanding))

/-- The invariant of a flush that has its queue for itself, given the queue before it. -/
structure Steady (start : AckQueue) (task : TaskId) (flush : LoneFlush) : Prop where
  sound : flush.queue.Sound
  assignment : flush.queue.assignment = start.assignment
  alone : ∀ other, other ≠ task → flush.queue.flushes.get? other = none
  runs : flush.ended = none → ∃ phase, flush.queue.flushes.get? task = some phase
  /-- Each round that is through has taken an entry off the queue. -/
  bound : flush.rounds.length + flush.queue.queued.length ≤
    start.queued.length + if flush.queue.canProceed task then 0 else 1
  /-- The call that the flush waits for is the latest of the latest round. -/
  awaited : flush.queue.Awaited (flush.rounds.headD [])
  ends : ∀ ended, flush.ended = some ended → flush.Ends ended

/-- Marks of a round that has begun are entered at its end. -/
theorem headD_enter {rounds : List Account} {exchange : Exchange} {exchanges : List Exchange}
    (latest : (rounds.headD []).latest = exchange :: exchanges) (marks : Account) :
    (enter marks rounds).headD [] = rounds.headD [] ++ marks ∧
      (enter marks rounds).head? = some (rounds.headD [] ++ marks) := by
  cases rounds with
  | nil => cases latest
  | cons round earlier => exact ⟨rfl, rfl⟩

/-- Entering marks opens no round. -/
@[simp] theorem length_enter (marks : Account) (rounds : List Account) :
    (enter marks rounds).length = rounds.length := by
  cases rounds <;> rfl

namespace Steady

/-- A flush that begins on a queue without flushes is steady. -/
theorem begin {queue : AckQueue} (sound : queue.Sound)
    (quiet : ∀ other, queue.flushes.get? other = none) (task : TaskId) :
    (LoneFlush.begin queue task).Steady queue task where
  sound := sound.openFlush (quiet task)
  assignment := rfl
  alone other different := by
    rw [LoneFlush.begin, AckQueue.openFlush, Table.get?_set, if_neg different.symm]
    exact quiet other
  runs _ := ⟨.fresh, (Table.get?_set ..).trans (if_pos rfl)⟩
  bound := by
    rw [LoneFlush.begin, List.length_nil, Nat.zero_add]
    exact Nat.le_add_right _ _
  awaited := by
    refine .of_idle fun other phase here => ?_
    rw [LoneFlush.begin, AckQueue.openFlush, Table.get?_set, quiet other] at here
    split at here
    · cases here
      rfl
    · cases here
  ends := nofun

section

variable (steady : flush.Steady start task)

include steady

/-- No other flush is at the lock or in line for it. -/
theorem placed (here : flush.queue.flushes.get? task = some phase) :
    phase ≠ .inLine ∧ (phase = .fresh → flush.queue.lock.holder = none) := by
  have free : phase.holdsLock = false → flush.queue.lock.holder = none := by
    intro outside
    cases held : flush.queue.lock.holder with
    | none => rfl
    | some holder =>
        obtain ⟨inside, there, holds⟩ := (steady.sound.turns.holder holder).mp held
        by_cases same : holder = task
        · subst same
          cases here.symm.trans there
          cases outside.symm.trans holds
        · cases (steady.alone holder same).symm.trans there
  constructor
  · rintro rfl
    have waits := (steady.sound.turns.line task).mpr here
    rw [steady.sound.turns.taken (free rfl)] at waits
    cases waits
  · rintro rfl
    exact free rfl

/-- Whatever flush there is, is the one that has the queue for itself. -/
theorem own {other : TaskId} (here : flush.queue.flushes.get? other = some phase) :
    other = task := by
  by_cases same : other = task
  · exact same
  · cases (steady.alone other same).symm.trans here

/-- A flush that has not ended takes a turn. -/
theorem turn (runs : flush.ended = none) : flush.Turn task (flush.next script task) := by
  obtain ⟨phase, here⟩ := steady.runs runs
  obtain ⟨placed, free⟩ := steady.placed here
  exact turn_next here placed free

/-- The call of a flush that waits for an answer is the latest. -/
theorem latest (here : flush.queue.flushes.get? task = some phase)
    (sending : phase.isSending = true) : ∃ call exchanges,
      flush.queue.callOf? phase = some call ∧
        (flush.rounds.headD []).latest = ⟨task, call, none⟩ :: exchanges := by
  cases phase with
  | fresh | inLine | granted => exact absurd sending Bool.false_ne_true
  | returning | acking =>
      obtain ⟨exchanges, latest⟩ := steady.awaited task _ _ here rfl
      exact ⟨_, exchanges, rfl, latest⟩

/-- The rounds behind a flush and the entries before it stay within the bound over a turn. -/
theorem bound_next (turn : flush.Turn task after) :
    after.rounds.length + after.queue.queued.length ≤
      start.queued.length + if after.queue.canProceed task then 0 else 1 := by
  have bound := steady.bound
  cases turn with
  | asks lock fresh =>
      simp only [AckQueue.canProceed, fresh, Table.get?_set, if_true] at bound ⊢
      exact bound
  | rests granted unready =>
      obtain ⟨_, _, rest⟩ := flush.queue.closeFlush_rest task
      simp only [AckQueue.canProceed, granted, if_true, AckQueue.closeFlush_gone] at bound ⊢
      rw [rest, List.length_cons]
      simp only [Bool.false_eq_true, if_false]
      omega
  | begins granted some sent =>
      obtain ⟨_, rest⟩ := sent.rest
      rw [sent.canProceed]
      simp only [AckQueue.canProceed, granted, if_true] at bound
      rw [rest, List.length_cons]
      simp only [Bool.false_eq_true, if_false]
      omega
  | resumes returning sent =>
      obtain ⟨_, rest⟩ := sent.rest
      rw [sent.canProceed, length_enter, rest]
      simp only [AckQueue.canProceed, returning] at bound
      simp only [AckQueue.changeEntry, AckEntry.changeAt, List.length_map]
      exact bound
  | cuts fault returning nonempty =>
      simp only [AckQueue.canProceed, returning] at bound
      simp only [AckQueue.canProceed, AckQueue.setPhase, Table.get?_set, if_true, length_enter]
      exact bound
  | @settles ready acking =>
      obtain ⟨_, _, rest⟩ :=
        (flush.queue.settle ready.length (ready.getLastD 0)).endRound_rest task
      have fresh : ((flush.queue.settle ready.length (ready.getLastD 0)).endRound
          task).1.flushes.get? task = some .fresh := (Table.get?_set ..).trans (if_pos rfl)
      have removes := steady.sound.removes acking List.prefix_rfl
      have taken := removes.nonempty
      have enough := removes.present
      simp only [AckQueue.canProceed, acking] at bound
      simp only [AckQueue.canProceed, fresh, if_true, length_enter]
      rw [rest]
      simp only [AckQueue.settle, List.length_drop, Bool.false_eq_true, if_false] at bound ⊢
      omega
  | @fails phase fault here sending =>
      obtain ⟨_, _, rest⟩ := flush.queue.closeFlush_rest task
      rw [AckQueue.canProceed_of_isSending here sending] at bound
      simp only [AckQueue.canProceed, AckQueue.closeFlush_gone, length_enter]
      rw [rest]
      exact bound

/-- What the last round awaits is what its queue awaits, after every turn. -/
theorem awaited_next (turn : flush.Turn task after) :
    after.queue.Awaited (after.rounds.headD []) := by
  have turns := steady.sound.turns
  cases turn with
  | asks lock fresh =>
      refine .of_idle fun other phase here => ?_
      rw [Table.get?_set] at here
      split at here
      · cases here
        rfl
      · rename_i different
        exact absurd (steady.own here).symm different
  | rests granted unready =>
      exact .of_idle fun other phase here => turns.closeFlush_idle granted rfl here
  | begins granted some sent =>
      have called : AckQueue.Awaited _ ([] ++ _) := .transmission turns granted rfl sent
      exact called
  | @resumes done rest current message marks _ returning sent =>
      obtain ⟨call, exchanges, _, latest⟩ := steady.latest returning rfl
      have changed : (flush.queue.changeEntry current AckEntry.markReturned).Turns :=
        turns.of_same rfl rfl
      rw [(headD_enter latest _).1, List.append_cons]
      exact .transmission changed returning rfl sent
  | cuts fault returning nonempty =>
      obtain ⟨call, exchanges, _, latest⟩ := steady.latest returning rfl
      rw [(headD_enter latest _).1, List.append_cons]
      exact .setPhase turns returning rfl rfl
  | @settles ready acking =>
      have settled : (flush.queue.settle ready.length (ready.getLastD 0)).Turns :=
        turns.of_same rfl rfl
      exact .of_idle fun other phase here => settled.endRound_idle acking rfl here
  | fails fault here sending =>
      exact .of_idle fun other phase there =>
        turns.closeFlush_idle here (FlushPhase.holdsLock_of_isSending sending) there

/-- A turn that ends the flush ends it as the last round did. -/
theorem ends_next (turn : flush.Turn task after) {ended : FlushEnd}
    (ends : after.ended = some ended) : after.Ends ended := by
  cases turn with
  | asks | begins | resumes | cuts | settles => cases ends
  | rests granted unready =>
      obtain ⟨_, _, rest⟩ := flush.queue.closeFlush_rest task
      cases ends
      refine .rested ?_ rfl
      rw [rest]
      exact unready
  | fails fault here sending =>
      obtain ⟨_, _, rest⟩ := flush.queue.closeFlush_rest task
      obtain ⟨call, exchanges, _, latest⟩ := steady.latest here sending
      cases ends
      refine .failed ?_ (headD_enter latest _).2 ⟨⟨task, call, some (.failed fault)⟩, exchanges,
        fault, ?_, rfl⟩
      · rw [rest]
        exact steady.sound.readyOffsets_ne_nil here sending
      · rw [Account.latest_append, latest]
        simp only [List.foldl_cons, List.foldl_nil, Exchange.note, Exchange.close, if_true]

/-- **The invariant of a flush by itself.** Every step keeps it. -/
theorem next (script : Script) (runs : flush.ended = none) :
    (flush.next script task).Steady start task := by
  have turn : flush.Turn task (flush.next script task) := steady.turn runs
  have follows : (flush.step script task).Follows flush.queue task :=
    step_follows steady.sound.turns
  refine ⟨?_, ?_, fun other different => ?_, fun goes => ?_, steady.bound_next turn,
    steady.awaited_next turn, fun _ => steady.ends_next turn⟩
  · exact steady.sound.stride follows.stride
  · exact follows.stride.assignment.trans steady.assignment
  · refine Option.not_isSome_iff_eq_none.mp fun still => ?_
    have before := ((follows.runs other).mp still).1
    rw [steady.alone other different] at before
    exact Bool.false_ne_true before
  · obtain ⟨phase, here⟩ := steady.runs runs
    exact Option.isSome_iff_exists.mp ((follows.runs task).mpr ⟨by rw [here]; rfl, fun _ => goes⟩)

end

end Steady

/-! ### The end -/

/-- What every step keeps lasts to the end. -/
theorem run_preserves {motive : LoneFlush → Prop}
    (kept : ∀ flush, flush.ended = none → motive flush → motive (flush.next script task))
    (steps : Nat) (start : motive flush) : motive (flush.run script task steps) := by
  induction steps generalizing flush with
  | zero => exact start
  | succ steps ih =>
      unfold LoneFlush.run
      cases runs : flush.ended with
      | none => exact ih (kept flush runs start)
      | some ended => exact start

/-- A steady flush is steady after any number of steps. -/
theorem Steady.run (steady : flush.Steady start task) (script : Script) (steps : Nat) :
    (flush.run script task steps).Steady start task :=
  run_preserves (motive := (·.Steady start task)) (fun _ runs steady => steady.next script runs)
    steps steady

/-- A turn brings the flush nearer to its end: it shortens the queue, or the way to the next
answer. -/
theorem Steady.nearer (steady : flush.Steady start task) (turn : flush.Turn task after)
    (goes : after.ended = none) :
    after.queue.queued.length < flush.queue.queued.length ∨
      after.queue.queued.length = flush.queue.queued.length ∧
        after.queue.toGo task < flush.queue.toGo task := by
  cases turn with
  | rests | fails => cases goes
  | asks lock fresh =>
      refine .inr ⟨rfl, ?_⟩
      simp only [AckQueue.toGo, fresh, Table.get?_set, if_true, FlushPhase.steps]
      exact Nat.lt_succ_self _
  | begins granted some sent =>
      obtain ⟨length, less⟩ := sent.toGo_lt
      refine .inr ⟨length, Nat.lt_of_lt_of_le less ?_⟩
      have short : flush.queue.readyOffsets.length ≤ flush.queue.queued.length := by
        rw [AckQueue.readyOffsets, List.length_map]
        exact (List.takeWhile_prefix _).length_le
      simp only [AckQueue.toGo, granted, FlushPhase.steps]
      exact Nat.add_le_add_right short 2
  | @resumes _ _ current _ _ _ returning sent =>
      obtain ⟨length, less⟩ := sent.toGo_lt
      have same : (flush.queue.changeEntry current AckEntry.markReturned).queued.length =
          flush.queue.queued.length := List.length_map ..
      refine .inr ⟨length.trans same, Nat.lt_of_lt_of_le less ?_⟩
      simp only [AckQueue.toGo, returning, FlushPhase.steps]
      exact Nat.le_refl _
  | cuts fault returning nonempty =>
      refine .inr ⟨rfl, ?_⟩
      simp only [AckQueue.toGo, returning, AckQueue.setPhase, Table.get?_set, if_true,
        FlushPhase.steps]
      omega
  | @settles ready acking =>
      obtain ⟨_, _, rest⟩ :=
        (flush.queue.settle ready.length (ready.getLastD 0)).endRound_rest task
      have removes := steady.sound.removes acking List.prefix_rfl
      have taken := removes.nonempty
      have enough := removes.present
      refine .inl ?_
      rw [rest]
      simp only [AckQueue.settle, List.length_drop]
      omega

/-- A run of one more step is a step and the run from there on. -/
theorem run_succ (runs : flush.ended = none) (steps : Nat) :
    flush.run script task (steps + 1) = (flush.next script task).run script task steps := by
  rw [LoneFlush.run, runs]

/-- **A flush by itself ends.** -/
theorem Steady.ended {flush : LoneFlush} (steady : flush.Steady start task) (script : Script) :
    ∃ steps ended, (flush.run script task steps).ended = some ended := by
  cases runs : flush.ended with
  | some ended => exact ⟨0, ended, runs⟩
  | none =>
      cases goes : (flush.next script task).ended with
      | some ended => exact ⟨1, ended, by rw [run_succ runs]; exact goes⟩
      | none =>
          have turn : flush.Turn task (flush.next script task) := steady.turn runs
          have nearer := steady.nearer turn goes
          obtain ⟨steps, ended, ends⟩ := (steady.next script runs).ended script
          exact ⟨steps + 1, ended, by rw [run_succ runs]; exact ends⟩
termination_by (flush.queue.queued.length, flush.queue.toGo task)
decreasing_by
  rcases nearer with shorter | ⟨same, less⟩
  · exact .left _ _ shorter
  · rw [same]
    exact .right _ less

end LoneFlush

end PullConsumer
