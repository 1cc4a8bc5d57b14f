import Mathlib.Data.List.Basic
import Mathlib.Data.List.TakeWhile
import PullConsumer.Proofs.Queue.Alone

/-! # What a flush by itself sends

As long as no call fails, a flush that has its queue for itself makes the calls that send all that
is ready, and no others (`AckQueue.dispatch`): the messages of the entries at the front that were
rejected go back to the broker in the order of the queue, and then the entries are acknowledged in
one request (`LoneFlush.Steady.stage`).
-/

namespace PullConsumer

/-- The message that goes back to the broker from an entry in this state. -/
def AckState.returned? : AckState → Option Message
  | .needRetry message => some message
  | _ => none

/-- Only a rejected entry has a message to return. -/
theorem AckState.returned?_eq_none {state : AckState}
    (kept : ∀ message, state ≠ .needRetry message) : state.returned? = none := by
  cases state with
  | pending | completed => rfl
  | needRetry message => exact absurd rfl (kept message)

namespace AckQueue

/-- The longest run of entries at the front of the queue that are resolved. -/
def resolved (queue : AckQueue) : List AckEntry :=
  queue.queued.takeWhile fun entry => !entry.state.isPending

/-- The calls that return the messages of rejected entries among these offsets. -/
def returnsOf (queue : AckQueue) (offsets : List Int) : List Call :=
  offsets.filterMap fun offset => ((queue.stateOf? offset).bind AckState.returned?).map
    (Call.sendBack queue.assignment.brokerGroup)

/-- The calls that send all that is ready: the returns of rejected messages in the order of the
queue, and then one acknowledgment from the first to the last offset of what is ready. -/
def dispatch (queue : AckQueue) : List Call :=
  match queue.resolved with
  | [] => []
  | first :: rest =>
    ((first :: rest).filterMap fun entry => entry.state.returned?.map
      (Call.sendBack queue.assignment.brokerGroup)) ++
      [.sendAck queue.assignment.brokerGroup
        { subject := queue.assignment.subject
          group := queue.assignment.group
          partition := queue.assignment.partition
          consumer := queue.assignment.consumer
          strategy := queue.assignment.strategy
          version := queue.assignment.version
          broadcast := queue.assignment.broadcast
          first := first.offset
          last := (rest.getLastD first).offset }]

variable {queue : AckQueue}

theorem returnsOf_append (queue : AckQueue) (first second : List Int) :
    queue.returnsOf (first ++ second) = queue.returnsOf first ++ queue.returnsOf second :=
  List.filterMap_append

/-- What is behind the prefix of settled entries begins at the first pending one. -/
theorem drop_queued (queue : AckQueue) :
    queue.queued.drop queue.readyOffsets.length =
      queue.queued.dropWhile fun entry => !entry.state.isPending := by
  have split := List.takeWhile_append_dropWhile
    (p := fun entry : AckEntry => !entry.state.isPending) (l := queue.queued)
  have length : queue.readyOffsets.length = queue.resolved.length := List.length_map ..
  calc queue.queued.drop queue.readyOffsets.length
      = (queue.resolved ++ queue.queued.dropWhile fun entry => !entry.state.isPending).drop
          queue.resolved.length := by rw [length, resolved, split]
    _ = _ := List.drop_left

/-- After what is ready comes an entry that is not. -/
theorem readyOffsets_of_queued_eq_drop {next : AckQueue}
    (rest : next.queued = queue.queued.drop queue.readyOffsets.length) :
    next.readyOffsets = [] := by
  rw [drop_queued] at rest
  rw [readyOffsets, rest, List.map_eq_nil_iff, List.takeWhile_eq_nil_iff]
  intro positive
  exact List.dropWhile_get_zero_not _ _ positive

/-- A queue with a settled prefix returns what was rejected in it and sends one request for it. -/
theorem Ordered.dispatch_of_ready (ordered : queue.Ordered) (ready : queue.readyOffsets ≠ []) :
    queue.dispatch = queue.returnsOf queue.readyOffsets ++
      [.sendAck queue.assignment.brokerGroup (queue.ackRequest queue.readyOffsets)] := by
  have same : queue.returnsOf queue.readyOffsets = queue.resolved.filterMap fun entry =>
      entry.state.returned?.map (Call.sendBack queue.assignment.brokerGroup) := by
    rw [returnsOf, readyOffsets, List.filterMap_map]
    refine List.filterMap_congr fun entry member => ?_
    have listed : entry ∈ queue.registered :=
      List.mem_append_right _ ((List.takeWhile_sublist _).mem member)
    rw [Function.comp_apply, ordered.stateOf?_of_mem listed, Option.bind_some]
  have offsets : queue.readyOffsets = queue.resolved.map AckEntry.offset := rfl
  rw [same, offsets]
  unfold dispatch
  split
  · rename_i none
    exact absurd (congrArg (List.map AckEntry.offset) none) ready
  · rename_i first rest found
    have last : ((first :: rest).map AckEntry.offset).getLastD 0 =
        (rest.getLastD first).offset := by
      rw [List.map_cons, List.getLastD_cons, List.getLastD_map]
    rw [found, AckQueue.ackRequest, last]
    rfl

/-- A queue without a settled prefix makes no call. -/
theorem dispatch_of_unready (unready : queue.readyOffsets = []) : queue.dispatch = [] := by
  have none : queue.resolved = [] := List.map_eq_nil_iff.mp unready
  simp only [dispatch, none]

/-- A change of one of the first entries leaves the entries behind them alone. -/
theorem drop_queued_changeEntry {ready : List Int} {current : Int}
    (sorted : (queue.queued.map AckEntry.offset).Pairwise (· < ·))
    (front : ready <+: queue.queued.map AckEntry.offset) (member : current ∈ ready)
    (change : AckEntry → AckEntry) :
    (queue.changeEntry current change).queued.drop ready.length =
      queue.queued.drop ready.length := by
  obtain ⟨behind, split⟩ := front
  have drop : (queue.queued.drop ready.length).map AckEntry.offset = behind := by
    rw [List.map_drop, ← split, List.drop_left]
  rw [← split] at sorted
  change (queue.queued.map _).drop ready.length = _
  rw [← List.map_drop]
  refine (List.map_congr_left fun entry later => ?_).trans (List.map_id _)
  have above : current < entry.offset :=
    Increasing.lt_of_append sorted member (drop ▸ List.mem_map_of_mem later)
  exact if_neg (Int.ne_of_gt above)

end AckQueue

namespace LoneFlush

variable {flush after : LoneFlush} {start : AckQueue} {task : TaskId} {phase : FlushPhase}

/-- The calls of the flush so far, in order. -/
def calls (flush : LoneFlush) : List Call :=
  flush.rounds.reverse.flatMap Account.calls

/-- No call of the flush has failed so far. -/
def Unfailed (flush : LoneFlush) : Prop :=
  ∀ round ∈ flush.rounds, ∀ exchange ∈ round.latest, ∀ fault,
    exchange.answer ≠ some (.failed fault)

/-- Marks that are entered in the last round add their calls. -/
theorem calls_enter {exchange : Exchange} {exchanges : List Exchange}
    (latest : (flush.rounds.headD []).latest = exchange :: exchanges) (marks : Account)
    (queue : AckQueue) (ended : Option FlushEnd) :
    calls ⟨queue, enter marks flush.rounds, ended⟩ = flush.calls ++ Account.calls marks := by
  cases shown : flush.rounds with
  | nil =>
      rw [shown] at latest
      cases latest
  | cons round earlier =>
      simp only [calls, shown, enter, List.reverse_cons, List.flatMap_append,
        List.flatMap_singleton, Account.calls_append, List.append_assoc]

/-- A new round adds its calls. -/
theorem calls_cons (queue : AckQueue) (round : Account) (ended : Option FlushEnd) :
    calls ⟨queue, round :: flush.rounds, ended⟩ = flush.calls ++ round.calls := by
  simp only [calls, List.reverse_cons, List.flatMap_append, List.flatMap_singleton]

/-- Where an answer comes in and no call has failed since, the answer is no failure, and no call had
failed before. -/
theorem unfailed_of_enter {call : Call} {exchanges : List Exchange} {answer : Answer Unit}
    (more : Option Call) {queue : AckQueue} {ended : Option FlushEnd}
    (latest : (flush.rounds.headD []).latest = ⟨task, call, none⟩ :: exchanges)
    (unfailed : Unfailed
      ⟨queue, enter (.answered task answer :: more.toList.map (.called task)) flush.rounds,
        ended⟩) :
    flush.Unfailed ∧ ∀ fault, answer ≠ .failed fault := by
  cases shown : flush.rounds with
  | nil =>
      rw [shown] at latest
      cases latest
  | cons round earlier =>
      rw [shown, List.headD_cons] at latest
      have now : ∀ exchange ∈ ⟨task, call, some answer⟩ :: exchanges, ∀ fault,
          exchange.answer ≠ some (.failed fault) := by
        intro exchange member
        refine unfailed _ (by rw [shown]; exact List.mem_cons_self) exchange ?_
        rw [Account.latest_append, latest]
        cases more with
        | none =>
            simp only [Option.toList_none, List.map_nil, List.foldl_cons, List.foldl_nil,
              Exchange.note, Exchange.close, if_true]
            exact member
        | some other =>
            simp only [Option.toList_some, List.map_cons, List.map_nil, List.foldl_cons,
              List.foldl_nil, Exchange.note, Exchange.close, if_true]
            exact List.mem_cons_of_mem _ member
      refine ⟨fun other member exchange inside fault => ?_, fun fault failed => ?_⟩
      · rw [shown] at member
        rcases List.mem_cons.mp member with rfl | before
        · rw [latest] at inside
          rcases List.mem_cons.mp inside with rfl | past
          · exact (Option.some_ne_none _).symm
          · exact now exchange (List.mem_cons_of_mem _ past) fault
        · refine unfailed other ?_ exchange inside fault
          rw [shown]
          exact List.mem_cons_of_mem _ before
      · exact now _ List.mem_cons_self fault (congrArg some failed)

/-- How far a flush is that has its queue for itself and whose calls have not failed. -/
inductive UnfailedStage (start : AckQueue) (task : TaskId) (flush : LoneFlush) : Prop
  /-- It has not looked at the queue yet. -/
  | waits (idle : ∀ phase, flush.queue.flushes.get? task = some phase → phase.isSending = false)
      (runs : flush.ended = none) (made : flush.calls = [])
      (queued : flush.queue.queued = start.queued)
      (same : ∀ offset, flush.queue.stateOf? offset = start.stateOf? offset)
  /-- It returns the message of `current`. -/
  | returning {done rest : List Int} {current : Int} {message : Message}
      (runs : flush.ended = none)
      (here : flush.queue.flushes.get? task = some (.returning done current rest message))
      (ready : start.readyOffsets = done ++ current :: rest)
      (made : flush.calls = start.returnsOf (done ++ [current]))
      (same : ∀ offset ∈ rest, flush.queue.stateOf? offset = start.stateOf? offset)
      (later : flush.queue.queued.drop start.readyOffsets.length =
        start.queued.drop start.readyOffsets.length)
  /-- It acknowledges what was ready. -/
  | acking (runs : flush.ended = none)
      (here : flush.queue.flushes.get? task = some (.acking start.readyOffsets))
      (made : flush.calls = start.dispatch)
      (later : flush.queue.queued.drop start.readyOffsets.length =
        start.queued.drop start.readyOffsets.length)
  /-- All that was ready is acknowledged. -/
  | spent (idle : ∀ phase, flush.queue.flushes.get? task = some phase → phase.isSending = false)
      (made : flush.calls = start.dispatch)
      (queued : flush.queue.queued = start.queued.drop start.readyOffsets.length)

namespace UnfailedStage

/-- A flush that goes on with what is ready makes the next call that is due. -/
theorem of_transmission {middle next : AckQueue} {done rest : List Int} {marks : Account}
    {rounds : List Account} (sent : middle.Transmission task done rest marks next)
    (ordered : start.Ordered) (assignment : middle.assignment = start.assignment)
    (nonempty : start.readyOffsets ≠ []) (ready : start.readyOffsets = done ++ rest)
    (made : calls ⟨next, rounds, none⟩ = start.returnsOf done ++ Account.calls marks)
    (same : ∀ offset ∈ rest, middle.stateOf? offset = start.stateOf? offset)
    (later : middle.queued.drop start.readyOffsets.length =
      start.queued.drop start.readyOffsets.length) :
    UnfailedStage start task ⟨next, rounds, none⟩ := by
  -- Entries that are passed over have nothing to return.
  have silent : ∀ passed : List Int, (∀ offset ∈ passed, offset ∈ rest) →
      (∀ offset ∈ passed, ∀ other, middle.stateOf? offset ≠ some (.needRetry other)) →
      start.returnsOf passed = [] := by
    intro passed inside kept
    refine List.filterMap_eq_nil_iff.mpr fun offset member => ?_
    rw [← same offset (inside offset member), Option.map_eq_none_iff, Option.bind_eq_none_iff]
    intro state found
    exact AckState.returned?_eq_none fun message nacked =>
      kept offset member message (found.trans (congrArg _ nacked))
  cases sent with
  | sendBack passed current more message split kept nacked =>
      have here : start.returnsOf [current] =
          [Call.sendBack start.assignment.brokerGroup message] := by
        have found := same current (by simp [split])
        rw [nacked] at found
        simp only [AckQueue.returnsOf, List.filterMap_cons, List.filterMap_nil, ← found,
          Option.bind_some, AckState.returned?, Option.map_some]
      refine .returning rfl ((Table.get?_set ..).trans (if_pos rfl)) ?_ ?_ ?_ later
      · rw [ready, split, List.append_assoc]
      · rw [made, AckQueue.returnsOf_append, AckQueue.returnsOf_append,
          silent passed (fun offset member => by simp [split, member]) kept, here, assignment,
          List.append_nil]
        rfl
      · intro offset member
        exact same offset (by simp [split, member])
  | sendAck kept =>
      refine .acking rfl ?_ ?_ later
      · rw [ready]
        exact (Table.get?_set ..).trans (if_pos rfl)
      · rw [made, ordered.dispatch_of_ready nonempty, ready, AckQueue.returnsOf_append,
          silent rest (fun _ => id) kept, List.append_nil, assignment,
          AckQueue.ackRequest_congr assignment]
        rfl

variable (stage : flush.UnfailedStage start task)

include stage

/-- A flush that waits for no answer has made no call or all of them. -/
theorem of_idle (here : flush.queue.flushes.get? task = some phase)
    (idle : phase.isSending = false) :
    flush.calls = [] ∧ flush.queue.queued = start.queued ∧
        (∀ offset, flush.queue.stateOf? offset = start.stateOf? offset) ∨
      flush.calls = start.dispatch ∧
        flush.queue.queued = start.queued.drop start.readyOffsets.length := by
  cases stage with
  | waits _ runs made queued same => exact .inl ⟨made, queued, same⟩
  | returning runs there | acking runs there =>
      cases here.symm.trans there
      cases idle
  | spent _ made queued => exact .inr ⟨made, queued⟩

/-- A flush that gets the lock it asked for is at the stage it was at before. -/
theorem asks (lock : SendLock) (fresh : flush.queue.flushes.get? task = some .fresh) :
    UnfailedStage start task ⟨{ flush.queue with
      lock := lock, flushes := flush.queue.flushes.set task .granted }, flush.rounds, none⟩ := by
  have idle : ∀ phase, (flush.queue.flushes.set task .granted).get? task = some phase →
      phase.isSending = false := by
    intro phase here
    cases ((Table.get?_set ..).trans (if_pos rfl)).symm.trans here
    rfl
  rcases stage.of_idle fresh rfl with ⟨made, queued, same⟩ | ⟨made, queued⟩
  · exact .waits idle rfl made queued same
  · exact .spent idle made queued

/-- Where a round finds nothing to send, nothing was ready, or it is acknowledged. -/
theorem rests (granted : flush.queue.flushes.get? task = some .granted)
    (unready : flush.queue.readyOffsets = []) (ended : Option FlushEnd) :
    UnfailedStage start task ⟨(flush.queue.closeFlush task).1, [] :: flush.rounds, ended⟩ := by
  obtain ⟨_, _, rest⟩ := flush.queue.closeFlush_rest task
  have queued : (flush.queue.closeFlush task).1.queued = flush.queue.queued := by rw [rest]
  have made : calls ⟨(flush.queue.closeFlush task).1, [] :: flush.rounds, ended⟩ = flush.calls :=
    (calls_cons ..).trans (List.append_nil _)
  refine .spent (fun phase here => ?_) ?_ ?_
  · cases (flush.queue.closeFlush_gone task).symm.trans here
  · rw [made]
    rcases stage.of_idle granted rfl with ⟨none, whole, _⟩ | ⟨all, _⟩
    · rw [AckQueue.readyOffsets, whole] at unready
      rw [none, AckQueue.dispatch_of_unready unready]
    · exact all
  · refine queued.trans ?_
    rcases stage.of_idle granted rfl with ⟨_, whole, _⟩ | ⟨_, left⟩
    · rw [AckQueue.readyOffsets, whole] at unready
      rw [whole, AckQueue.readyOffsets, unready]
      rfl
    · exact left

/-- A round that finds something to send is the first. -/
theorem begins {queue : AckQueue} {round : Account} (steady : flush.Steady start task)
    (ordered : start.Ordered) (granted : flush.queue.flushes.get? task = some .granted)
    (ready : flush.queue.readyOffsets ≠ [])
    (sent : flush.queue.Transmission task [] flush.queue.readyOffsets round queue) :
    UnfailedStage start task ⟨queue, round :: flush.rounds, none⟩ := by
  rcases stage.of_idle granted rfl with ⟨none, whole, same⟩ | ⟨_, left⟩
  · have first : flush.queue.readyOffsets = start.readyOffsets := by
      rw [AckQueue.readyOffsets, whole]
      rfl
    rw [first] at sent ready
    refine .of_transmission sent ordered steady.assignment ready rfl ?_ (fun _ _ => same _) ?_
    · rw [calls_cons, none]
      rfl
    · rw [whole]
  · exact absurd (AckQueue.readyOffsets_of_queued_eq_drop left) ready

/-- An accepted return leaves the rest of the prefix to be returned. -/
theorem resumes {queue : AckQueue} {done rest : List Int} {current : Int} {message : Message}
    {marks : Account} (steady : flush.Steady start task) (ordered : start.Ordered)
    (returning : flush.queue.flushes.get? task = some (.returning done current rest message))
    (sent : (flush.queue.changeEntry current AckEntry.markReturned).Transmission task
      (done ++ [current]) rest marks queue) :
    UnfailedStage start task ⟨queue, enter (.answered task (.value ()) :: marks)
      flush.rounds, none⟩ := by
  obtain ⟨call, exchanges, _, latest⟩ := steady.latest returning rfl
  cases stage with
  | waits idle | spent idle => cases (idle _ returning).symm
  | acking runs here => cases here.symm.trans returning
  | returning runs here ready made same later =>
      cases here.symm.trans returning
      obtain ⟨front, _⟩ := steady.sound.fits task _ returning
      have sorted := steady.sound.ordered.sorted_queued
      have once : (done ++ current :: rest).Pairwise (· < ·) := sorted.sublist front.sublist
      have assignment : (flush.queue.changeEntry current AckEntry.markReturned).assignment =
          start.assignment := steady.assignment
      refine .of_transmission sent ordered assignment ?_ ?_ ?_ (fun offset member => ?_) ?_
      · rw [ready]
        simp
      · rw [ready, List.append_assoc]
        rfl
      · rw [calls_enter latest, made]
        rfl
      · have above : current < offset :=
          (List.pairwise_cons.mp (List.pairwise_append.mp once).2.1).1 offset member
        rw [AckQueue.stateOf?_markReturned, if_neg (Int.ne_of_gt above)]
        exact same offset member
      · rw [← later, ready]
        exact AckQueue.drop_queued_changeEntry sorted front (by simp) _

/-- An accepted request takes the prefix off the queue, and the round ends. -/
theorem settles {ready : List Int} (steady : flush.Steady start task)
    (acking : flush.queue.flushes.get? task = some (.acking ready)) :
    UnfailedStage start task ⟨((flush.queue.settle ready.length
        (ready.getLastD 0)).endRound task).1,
      enter [.answered task (.value ())] flush.rounds, none⟩ := by
  obtain ⟨call, exchanges, _, latest⟩ := steady.latest acking rfl
  obtain ⟨_, _, rest⟩ := (flush.queue.settle ready.length (ready.getLastD 0)).endRound_rest task
  cases stage with
  | waits idle | spent idle => cases (idle _ acking).symm
  | returning runs here => cases here.symm.trans acking
  | acking runs here made later =>
      cases here.symm.trans acking
      refine .spent (fun phase there => ?_) ?_ ?_
      · cases ((Table.get?_set ..).trans (if_pos rfl)).symm.trans there
        rfl
      · rw [calls_enter latest, made]
        exact List.append_nil _
      · rw [rest]
        exact later

end UnfailedStage

/-- **The course of a flush by itself.** Each of its steps goes on with what is ready, as long as no
call fails. -/
theorem Steady.stage_next (steady : flush.Steady start task) (ordered : start.Ordered)
    (before : flush.Unfailed → flush.UnfailedStage start task) (turn : flush.Turn task after)
    (unfailed : after.Unfailed) : after.UnfailedStage start task := by
  cases turn with
  | asks lock fresh => exact (before unfailed).asks lock fresh
  | rests granted unready =>
      exact (before fun round member => unfailed round (List.mem_cons_of_mem _ member)).rests
        granted unready _
  | begins granted ready sent =>
      exact (before fun round member => unfailed round (List.mem_cons_of_mem _ member)).begins
        steady ordered granted ready sent
  | resumes returning sent =>
      obtain ⟨call, exchanges, _, latest⟩ := steady.latest returning rfl
      obtain ⟨more, rfl⟩ := sent.exists_call
      have earlier := (unfailed_of_enter (some more) latest unfailed).1
      exact (before earlier).resumes steady ordered returning sent
  | cuts fault returning nonempty =>
      obtain ⟨call, exchanges, _, latest⟩ := steady.latest returning rfl
      exact absurd rfl ((unfailed_of_enter (some _) latest unfailed).2 fault)
  | settles acking =>
      obtain ⟨call, exchanges, _, latest⟩ := steady.latest acking rfl
      have earlier := (unfailed_of_enter none latest unfailed).1
      exact (before earlier).settles steady acking
  | fails fault here sending =>
      obtain ⟨call, exchanges, _, latest⟩ := steady.latest here sending
      exact absurd rfl ((unfailed_of_enter none latest unfailed).2 fault)

/-- As long as no call fails, a steady flush is at one of the stages of its prefix. -/
theorem Steady.stage (steady : flush.Steady start task) (ordered : start.Ordered)
    (begun : flush.Unfailed → flush.UnfailedStage start task) (script : Script) (steps : Nat)
    (unfailed : (flush.run script task steps).Unfailed) :
    (flush.run script task steps).UnfailedStage start task := by
  have kept : ∀ flush : LoneFlush, flush.ended = none →
      flush.Steady start task ∧ (flush.Unfailed → flush.UnfailedStage start task) →
        (flush.next script task).Steady start task ∧
          ((flush.next script task).Unfailed → (flush.next script task).UnfailedStage start task) :=
    fun _ runs both => ⟨both.1.next script runs,
      both.1.stage_next ordered both.2 (both.1.turn runs)⟩
  exact (run_preserves kept steps ⟨steady, begun⟩).2 unfailed

end LoneFlush

/-! ### The outcome -/

/-- How a flush of a queue ends that has the queue for itself. -/
structure AckQueue.FlushedAlone (queue : AckQueue) (last : LoneFlush) (outcome : DrainOutcome) :
    Prop where
  ended : last.ended = some (.outcome outcome)
  rounds : last.rounds.length ≤ queue.queued.length + 1
  cases : outcome = .drained ∨ (∃ entries, outcome = .outstanding entries) ∨
    ∃ entries, outcome = .failed entries
  drained : outcome = .drained ↔ last.queue.queued = []
  outstanding : ∀ entries, outcome = .outstanding entries ↔
    entries = last.queue.queued.length ∧
      ∃ first rest, last.queue.queued = first :: rest ∧ first.state = .pending
  failed : ∀ entries, outcome = .failed entries ↔
    entries = last.queue.queued.length ∧ ∃ round, last.rounds.head? = some round ∧ round.Fails
  /-- What a failed flush leaves begins with an entry that is resolved. -/
  left : ∀ entries, outcome = .failed entries →
    ∃ first rest, last.queue.queued = first :: rest ∧ first.state ≠ .pending
  calls : last.Unfailed → last.calls = queue.dispatch
  remaining : last.Unfailed →
    last.queue.queued = queue.queued.dropWhile fun entry => !entry.state.isPending

theorem Account.not_fails_nil : ¬ Account.Fails [] := by
  rintro ⟨exchange, earlier, fault, latest, _⟩
  cases latest

/-- A flush that has its queue for itself ends with an outcome that tells what becomes of it. -/
theorem LoneFlush.Steady.flushedAlone {last : LoneFlush} {queue : AckQueue} {task : TaskId}
    {ended : FlushEnd} (steady : last.Steady queue task) (ends : last.ended = some ended)
    (stage : last.Unfailed → last.UnfailedStage queue task) :
    ∃ outcome, ended = .outcome outcome ∧ queue.FlushedAlone last outcome := by
  have rounds : last.rounds.length ≤ queue.queued.length + 1 := by
    have bound := steady.bound
    split at bound <;> omega
  have sends : last.Unfailed → last.calls = queue.dispatch ∧
      last.queue.queued = queue.queued.dropWhile fun entry => !entry.state.isPending := by
    intro unfailed
    cases stage unfailed with
    | waits _ runs => cases runs.symm.trans ends
    | returning runs => cases runs.symm.trans ends
    | acking runs => cases runs.symm.trans ends
    | spent _ made queued => exact ⟨made, queued.trans queue.drop_queued⟩
  have whole := fun unfailed => (sends unfailed).1
  have behind := fun unfailed => (sends unfailed).2
  cases steady.ends ended ends with
  | rested unready silent =>
      have spoke : ¬ ∃ round, last.rounds.head? = some round ∧ round.Fails := by
        rintro ⟨round, here, fails⟩
        cases silent.symm.trans here
        exact Account.not_fails_nil fails
      cases queued : last.queue.queued with
      | nil =>
          have outcome : last.queue.restOutcome = .drained := if_pos (congrArg List.length queued)
          rw [outcome] at ends ⊢
          exact ⟨_, rfl, ends, rounds, .inl rfl, by simp [queued], by simp [queued],
            fun _ => ⟨nofun, fun both => absurd both.2 spoke⟩, nofun, whole, behind⟩
      | cons first rest =>
          have some : last.queue.queued.length ≠ 0 := by simp [queued]
          have outcome : last.queue.restOutcome = .outstanding last.queue.queued.length :=
            if_neg some
          have pending := last.queue.readyOffsets_eq_nil_iff.mp unready first rest queued
          rw [outcome] at ends ⊢
          refine ⟨_, rfl, ends, rounds, .inr (.inl ⟨_, rfl⟩), by simp [queued], fun entries => ?_,
            fun _ => ⟨nofun, fun both => absurd both.2 spoke⟩, nofun, whole, behind⟩
          rw [DrainOutcome.outstanding.injEq, eq_comm]
          exact (and_iff_left ⟨first, rest, queued, pending⟩).symm
  | failed ready here fails =>
      obtain ⟨first, rest, queued, resolved⟩ : ∃ first rest,
          last.queue.queued = first :: rest ∧ first.state ≠ .pending := by
        rw [ne_eq, last.queue.readyOffsets_eq_nil_iff] at ready
        simpa only [Classical.not_forall, exists_prop] using ready
      refine ⟨_, rfl, ends, rounds, .inr (.inr ⟨_, rfl⟩), by simp [queued],
        fun entries => ⟨nofun, ?_⟩, fun entries => ?_,
        fun _ _ => ⟨first, rest, queued, resolved⟩, whole, behind⟩
      · rintro ⟨_, other, more, same, pending⟩
        cases queued.symm.trans same
        exact absurd pending resolved
      · rw [DrainOutcome.failed.injEq, eq_comm]
        exact (and_iff_left ⟨_, here, fails⟩).symm

end PullConsumer
