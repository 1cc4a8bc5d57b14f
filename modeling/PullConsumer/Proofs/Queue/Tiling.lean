import PullConsumer.Proofs.Queue.Rounds

/-! # Accepted acknowledgments tile the queue

The account of a queue and its state tell the same story (`AckQueue.Tallied`): the admitted offsets
are the registered ones, every ack request is about a block of them, and the accepted requests, in
the order of the calls, are about adjacent blocks that make up exactly what was acknowledged. A
flush that waits for an answer made the latest call (`AckQueue.Awaited`). Both hold along every run
of a queue (`AckQueue.Recorded.stride`).
-/

namespace PullConsumer

namespace AckQueue

/-- The call whose answer a flush in this phase waits for. -/
def callOf? (queue : AckQueue) : FlushPhase → Option Call
  | .returning _ _ _ message => some (.sendBack queue.assignment.brokerGroup message)
  | .acking ready =>
    some (.sendAck queue.assignment.brokerGroup (queue.ackRequest ready))
  | _ => none

/-- What the account says about the entries of the queue. -/
structure Tallied (queue : AckQueue) (account : Account) : Prop where
  admitted : queue.registered.map AckEntry.offset = account.admitted
  requests : ∀ request ∈ account.requests, ∃ block, block ≠ [] ∧
    block <:+: queue.registered.map AckEntry.offset ∧ request = queue.ackRequest block
  accepted : ∃ blocks : List (List Int), (∀ block ∈ blocks, block ≠ []) ∧
    account.accepted = blocks.map queue.ackRequest ∧
    queue.settled.map AckEntry.offset = blocks.flatten

/-- A flush that waits for an answer made the latest call, and it is still open. -/
def Awaited (queue : AckQueue) (account : Account) : Prop :=
  ∀ task phase call, queue.flushes.get? task = some phase → queue.callOf? phase = some call →
    ∃ earlier, account.latest = ⟨task, call, none⟩ :: earlier

/-- Requests depend on the assignment of the queue only. -/
theorem ackRequest_congr {queue next : AckQueue} (assignment : next.assignment = queue.assignment) :
    next.ackRequest = queue.ackRequest := by
  funext block
  unfold ackRequest
  rw [assignment]

/-- The call that a phase waits for depends on the assignment of the queue only. -/
theorem callOf?_congr {queue next : AckQueue} (assignment : next.assignment = queue.assignment)
    (phase : FlushPhase) : next.callOf? phase = queue.callOf? phase := by
  unfold callOf?
  rw [assignment, ackRequest_congr assignment]

/-- A phase that waits for the answer to a call is one in which something is sent. -/
theorem isSending_of_callOf? {queue : AckQueue} {phase : FlushPhase} {call : Call}
    (calls : queue.callOf? phase = some call) : phase.isSending = true := by
  cases phase with
  | fresh | inLine | granted => exact nomatch calls
  | returning | acking => rfl

namespace Tallied

variable {queue next : AckQueue} {account : Account}

/-- A tally depends on the assignment, the registered offsets and the acknowledged ones only. -/
theorem of_same (tallied : queue.Tallied account) (assignment : next.assignment = queue.assignment)
    (settled : next.settled.map AckEntry.offset = queue.settled.map AckEntry.offset)
    (registered : next.registered.map AckEntry.offset = queue.registered.map AckEntry.offset) :
    next.Tallied account := by
  constructor
  · rw [registered]
    exact tallied.admitted
  · rw [registered, ackRequest_congr assignment]
    exact tallied.requests
  · rw [settled, ackRequest_congr assignment]
    exact tallied.accepted

/-- A message that is offered adds its offset to the entries if it is admitted. -/
theorem offered (tallied : queue.Tallied account) (message : Message)
    (result : Except Fault Int) (assignment : next.assignment = queue.assignment)
    (settled : next.settled = queue.settled)
    (registered : next.registered.map AckEntry.offset =
      queue.registered.map AckEntry.offset ++ Account.admitted [.offered message result]) :
    next.Tallied (account ++ [.offered message result]) := by
  have latest : Account.latest (account ++ [.offered message result]) = account.latest :=
    account.latest_append _
  constructor
  · rw [registered, Account.admitted_append, tallied.admitted]
  · rw [Account.requests, Account.exchanges, latest, ackRequest_congr assignment]
    intro request member
    obtain ⟨block, nonempty, inside, same⟩ := tallied.requests request member
    refine ⟨block, nonempty, ?_, same⟩
    rw [registered]
    exact inside.trans (List.prefix_append _ _).isInfix
  · rw [Account.accepted, Account.exchanges, latest, ackRequest_congr assignment, settled]
    exact tallied.accepted

/-- A message on its way back leaves the requests and the entries alone. -/
theorem called_sendBack (tallied : queue.Tallied account) (task : TaskId) (brokerGroup : String)
    (message : Message) :
    queue.Tallied (account ++ [.called task (.sendBack brokerGroup message)]) where
  admitted := by
    rw [Account.admitted_append, tallied.admitted]
    exact (List.append_nil _).symm
  requests := by
    rw [Account.requests_called_sendBack]
    exact tallied.requests
  accepted := by
    rw [Account.accepted_called]
    exact tallied.accepted

/-- A new ack request is about a block of the registered offsets. -/
theorem called_sendAck (tallied : queue.Tallied account) (task : TaskId) (brokerGroup : String)
    {block : List Int} (nonempty : block ≠ [])
    (front : block <+: queue.queued.map AckEntry.offset) :
    queue.Tallied (account ++ [.called task (.sendAck brokerGroup (queue.ackRequest block))]) where
  admitted := by
    rw [Account.admitted_append, tallied.admitted]
    exact (List.append_nil _).symm
  requests := by
    rw [Account.requests_called_sendAck]
    intro request member
    rcases List.mem_append.mp member with before | now
    · exact tallied.requests request before
    · refine ⟨block, nonempty, ?_, List.mem_singleton.mp now⟩
      rw [Ordered.map_offset_registered]
      exact front.isInfix.trans (List.suffix_append _ _).isInfix
  accepted := by
    rw [Account.accepted_called]
    exact tallied.accepted

/-- A transmission takes no entry off its queue yet. -/
theorem transmission (tallied : queue.Tallied account) {task : TaskId} {done rest : List Int}
    {marks : Account} (sent : Transmission queue task done rest marks next)
    (nonempty : done ++ rest ≠ []) (front : done ++ rest <+: queue.queued.map AckEntry.offset) :
    next.Tallied (account ++ marks) := by
  cases sent with
  | sendBack passed current later message split kept nacked =>
      exact (tallied.called_sendBack task queue.assignment.brokerGroup message).of_same rfl rfl rfl
  | sendAck kept =>
      exact (tallied.called_sendAck task queue.assignment.brokerGroup nonempty front).of_same
        rfl rfl rfl

/-- An answer that accepts no acknowledgment takes no entry off the queue. -/
theorem answered (tallied : queue.Tallied account) {task : TaskId} {call : Call}
    {answer : Answer Unit} {earlier : List Exchange}
    (latest : account.latest = ⟨task, call, none⟩ :: earlier)
    (unaccepted : answer ≠ .value () ∨ ∃ brokerGroup message,
      call = .sendBack brokerGroup message) :
    queue.Tallied (account ++ [.answered task answer]) where
  admitted := by
    rw [Account.admitted_append, tallied.admitted]
    exact (List.append_nil _).symm
  requests := by
    rw [Account.requests_answered]
    exact tallied.requests
  accepted := by
    have silent : (if answer = .value () then
        (Exchange.request? ⟨task, call, none⟩).toList else []) = [] := by
      rcases unaccepted with refused | ⟨brokerGroup, message, rfl⟩
      · exact if_neg refused
      · exact ite_self []
    rw [Account.accepted_answered account answer latest, silent, List.append_nil]
    exact tallied.accepted

/-- An accepted acknowledgment appends its block to what was acknowledged. -/
theorem accepts (tallied : queue.Tallied account) {task : TaskId} {ready : List Int}
    {earlier : List Exchange} {brokerGroup : String} (nonempty : ready ≠ [])
    (front : ready <+: queue.queued.map AckEntry.offset)
    (latest : account.latest =
      ⟨task, .sendAck brokerGroup (queue.ackRequest ready), none⟩ :: earlier) :
    (queue.settle ready.length (ready.getLastD 0)).Tallied
      (account ++ [.answered task (.value ())]) where
  admitted := by
    rw [Account.admitted_append, registered_settle, tallied.admitted]
    exact (List.append_nil _).symm
  requests := by
    rw [Account.requests_answered, registered_settle]
    exact tallied.requests
  accepted := by
    obtain ⟨blocks, filled, requests, settled⟩ := tallied.accepted
    refine ⟨blocks ++ [ready], ?_, ?_, ?_⟩
    · intro block member
      rcases List.mem_append.mp member with before | now
      · exact filled block before
      · rw [List.mem_singleton.mp now]
        exact nonempty
    · rw [Account.accepted_answered account _ latest, requests, List.map_append]
      rfl
    · rw [Ordered.map_offset_settled_settle front, settled, List.flatten_append,
        List.flatten_singleton]

end Tallied

namespace Awaited

variable {queue next : AckQueue} {account : Account}

/-- If no flush newly waits for an answer and no line concerns one, the open call stays open. -/
theorem of_rest (awaited : queue.Awaited account) (assignment : next.assignment = queue.assignment)
    {marks : Account} (latest : Account.latest (account ++ marks) = account.latest)
    (sending : ∀ task phase, next.flushes.get? task = some phase → phase.isSending = true →
      queue.flushes.get? task = some phase) : next.Awaited (account ++ marks) := by
  intro task phase call here calls
  rw [latest]
  rw [callOf?_congr assignment] at calls
  exact awaited task phase call (sending task phase here (isSending_of_callOf? calls)) calls

/-- A call that the holder of the lock makes is the only one that is waited for. -/
theorem setPhase {task : TaskId} {before after : FlushPhase} {call : Call} (turns : queue.Turns)
    (here : queue.flushes.get? task = some before) (held : before.holdsLock = true)
    (calls : queue.callOf? after = some call) :
    (queue.setPhase task after).Awaited (account ++ [.called task call]) := by
  intro other phase otherCall there otherCalls
  have sending := isSending_of_callOf? otherCalls
  rw [AckQueue.setPhase, Table.get?_set] at there
  split at there
  · rename_i same
    cases there
    have made : queue.callOf? after = some otherCall := otherCalls
    rw [calls] at made
    cases made
    refine ⟨account.latest, ?_⟩
    rw [Account.latest_append, same]
    rfl
  · rename_i different
    exact absurd (turns.unique here held there (phase.holdsLock_of_isSending sending)) different

/-- The flush at the lock waits for the answer to the call it has just made. -/
theorem transmission {task : TaskId} {before : FlushPhase} {done rest : List Int} {marks : Account}
    (turns : queue.Turns) (here : queue.flushes.get? task = some before)
    (held : before.holdsLock = true) (sent : Transmission queue task done rest marks next) :
    next.Awaited (account ++ marks) := by
  cases sent with
  | sendBack passed current later message split kept nacked => exact setPhase turns here held rfl
  | sendAck kept => exact setPhase turns here held rfl

/-- Where no flush waits for an answer there is nothing to show. -/
theorem of_idle (idle : ∀ task phase, next.flushes.get? task = some phase →
    phase.isSending = false) : next.Awaited account := by
  intro task phase call here calls
  exact absurd (isSending_of_callOf? calls) (Bool.eq_false_iff.mp (idle task phase here))

end Awaited

/-- A flush that waits for an answer waits for that to a call. -/
theorem exists_callOf?_of_awaitsAnswer {queue : AckQueue} {task : TaskId}
    (awaits : queue.awaitsAnswer task = true) : ∃ phase call,
      queue.flushes.get? task = some phase ∧ queue.callOf? phase = some call := by
  unfold awaitsAnswer at awaits
  split at awaits
  · rename_i here
    exact ⟨_, _, here, rfl⟩
  · rename_i here
    exact ⟨_, _, here, rfl⟩
  · exact absurd awaits Bool.false_ne_true

/-- The state of a queue and its account agree. -/
structure Recorded (queue : AckQueue) (account : Account) : Prop where
  sound : queue.Sound
  tallied : queue.Tallied account
  awaited : queue.Awaited account

namespace Recorded

variable {queue next : AckQueue} {account marks : Account}

/-- A fresh queue agrees with an empty account. -/
theorem ofAssignment (assignment : Assignment) (settings : Settings) :
    (AckQueue.ofAssignment assignment settings).Recorded [] where
  sound := .ofAssignment assignment settings
  tallied := ⟨rfl, nofun, [], nofun, rfl, rfl⟩
  awaited := fun _ _ _ here => nomatch here

/-- A change without lines that neither touches an offset nor makes a flush wait for an answer. -/
theorem silent (recorded : queue.Recorded account) (sound : next.Sound)
    (assignment : next.assignment = queue.assignment)
    (settled : next.settled.map AckEntry.offset = queue.settled.map AckEntry.offset)
    (registered : next.registered.map AckEntry.offset = queue.registered.map AckEntry.offset)
    (sending : ∀ task phase, next.flushes.get? task = some phase → phase.isSending = true →
      queue.flushes.get? task = some phase) : next.Recorded (account ++ []) where
  sound := sound
  tallied := by
    rw [List.append_nil]
    exact recorded.tallied.of_same assignment settled registered
  awaited := recorded.awaited.of_rest assignment (congrArg _ (List.append_nil account)) sending

/-- The offer of a message is a line of the account, and admits the message if the queue does. -/
theorem register (recorded : queue.Recorded account) (message : Message) :
    (queue.register message).1.Recorded
      (account ++ [.offered message (queue.register message).2]) := by
  have move : queue.Move _ _ := .register message
  obtain ⟨_, _, same⟩ := queue.register_rest message
  have settled : (queue.register message).1.settled = queue.settled := by rw [same]
  refine ⟨recorded.sound.move move,
    recorded.tallied.offered message _ move.assignment settled move.registered, ?_⟩
  refine recorded.awaited.of_rest move.assignment (account.latest_append _)
    fun task phase here _ => ?_
  rw [same] at here
  exact here

/-- A verdict leaves no line in the account. -/
theorem resolve (recorded : queue.Recorded account) (offset : Int) (verdict : Verdict) :
    (queue.resolve offset verdict).1.Recorded (account ++ []) := by
  have move : queue.Move _ _ := .resolve offset verdict
  have settled : (queue.resolve offset verdict).1.settled.map AckEntry.offset =
      queue.settled.map AckEntry.offset := by
    unfold AckQueue.resolve
    split
    · exact AckEntry.map_offset_changeAt offset _
        (fun entry => entry.offset_resolve verdict) queue.settled
    · rfl
  obtain ⟨_, _, _, same, _⟩ := queue.resolve_rest offset verdict
  refine recorded.silent (recorded.sound.move move) move.assignment settled
    (queue.map_offset_registered_resolve offset verdict) fun task phase here _ => ?_
  rw [same] at here
  exact here

/-- A flush that asks for the lock leaves no line in the account. -/
theorem requestLock (recorded : queue.Recorded account) {task : TaskId}
    (fresh : queue.flushes.get? task = some .fresh) :
    (queue.proceedFlush task).queue.Recorded (account ++ []) := by
  have sound := recorded.sound.move (.requestLock task fresh)
  obtain ⟨_, _, same⟩ := requestLock_rest fresh
  refine recorded.silent sound (by rw [same]) (by rw [same]) (by rw [same]; rfl)
    fun other phase here sending => ?_
  simp only [proceedFlush, fresh, Table.get?_set] at here
  split at here
  · split at here
    all_goals
      cases here
      exact absurd sending Bool.false_ne_true
  · exact here

/-- A message that is back at the broker is followed by the next call of the flush. -/
theorem returned (recorded : queue.Recorded account) {task : TaskId} {done rest : List Int}
    {current : Int} {message : Message}
    (returning : queue.flushes.get? task = some (.returning done current rest message))
    (sent : Transmission (queue.changeEntry current AckEntry.markReturned) task
      (done ++ [current]) rest marks next) :
    next.Recorded (account ++ .answered task (.value ()) :: marks) := by
  have sound := recorded.sound.move (.returned task done current rest message returning sent)
  obtain ⟨front, _, _, _⟩ := recorded.sound.fits task _ returning
  obtain ⟨earlier, latest⟩ := recorded.awaited task _ _ returning rfl
  have answered : queue.Tallied (account ++ [.answered task (.value ())]) :=
    recorded.tallied.answered latest (.inr ⟨_, _, rfl⟩)
  have offsets : (queue.changeEntry current AckEntry.markReturned).queued.map AckEntry.offset =
      queue.queued.map AckEntry.offset :=
    AckEntry.map_offset_changeAt current _ AckEntry.offset_markReturned queue.queued
  have changed : (queue.changeEntry current AckEntry.markReturned).Tallied
      (account ++ [.answered task (.value ())]) :=
    answered.of_same rfl
      (AckEntry.map_offset_changeAt current _ AckEntry.offset_markReturned queue.settled)
      (queue.map_offset_registered_changeEntry current _ AckEntry.offset_markReturned)
  have turns : (queue.changeEntry current AckEntry.markReturned).Turns :=
    recorded.sound.turns.of_same rfl rfl
  rw [List.append_cons account]
  refine ⟨sound, changed.transmission sent (by simp) ?_, .transmission turns returning rfl sent⟩
  rw [offsets, List.append_assoc]
  exact front

/-- A failure to return a message cuts the batch short, and what comes before it is acknowledged. -/
theorem cut (recorded : queue.Recorded account) {task : TaskId} {done rest : List Int}
    {current : Int} {message : Message} (fault : Fault)
    (returning : queue.flushes.get? task = some (.returning done current rest message))
    (nonempty : done ≠ []) : (queue.setPhase task (.acking done)).Recorded
      (account ++ [.answered task (.failed fault),
        .called task (.sendAck queue.assignment.brokerGroup (queue.ackRequest done))]) := by
  have sound :=
    recorded.sound.move (.cut task done current rest message fault returning nonempty)
  obtain ⟨front, _, _, _⟩ := recorded.sound.fits task _ returning
  obtain ⟨earlier, latest⟩ := recorded.awaited task _ _ returning rfl
  have answered : queue.Tallied (account ++ [.answered task (.failed fault)]) :=
    recorded.tallied.answered latest (.inl (by simp))
  have called := answered.called_sendAck task queue.assignment.brokerGroup nonempty
    ((List.prefix_append done (current :: rest)).trans front)
  rw [List.append_cons account]
  exact ⟨sound, called.of_same rfl rfl rfl, .setPhase recorded.sound.turns returning rfl rfl⟩

/-- An accepted acknowledgment takes its block off the front of the queue. -/
theorem accepted (recorded : queue.Recorded account) {task : TaskId} {ready : List Int}
    (acking : queue.flushes.get? task = some (.acking ready)) :
    ((queue.settle ready.length (ready.getLastD 0)).endRound task).1.Recorded
      (account ++ [.answered task (.value ())]) := by
  have sound := recorded.sound.move (.accepted task ready acking)
  obtain ⟨nonempty, front, _⟩ := recorded.sound.fits task _ acking
  obtain ⟨earlier, latest⟩ := recorded.awaited task _ _ acking rfl
  have accepts := recorded.tallied.accepts nonempty front latest
  have turns : (queue.settle ready.length (ready.getLastD 0)).Turns :=
    recorded.sound.turns.of_same rfl rfl
  refine ⟨sound, ?_, .of_idle fun other phase here => turns.endRound_idle acking rfl here⟩
  obtain ⟨_, _, same⟩ := (queue.settle ready.length (ready.getLastD 0)).endRound_rest task
  rw [same]
  exact accepts.of_same rfl rfl rfl

/-- A call without success is entered, and no flush waits for an answer any more. -/
theorem broken (recorded : queue.Recorded account) {task : TaskId} {answer : Answer Unit}
    (awaits : queue.awaitsAnswer task = true) (unaccepted : answer ≠ .value ()) :
    (queue.closeFlush task).1.Recorded (account ++ [.answered task answer]) := by
  have sound := recorded.sound.move (.broken task answer awaits unaccepted)
  obtain ⟨phase, call, here, calls⟩ := exists_callOf?_of_awaitsAnswer awaits
  obtain ⟨earlier, latest⟩ := recorded.awaited task phase call here calls
  have answered := recorded.tallied.answered latest (.inl unaccepted)
  have held := phase.holdsLock_of_isSending (isSending_of_callOf? calls)
  refine ⟨sound, ?_, .of_idle fun other after there =>
    recorded.sound.turns.closeFlush_idle here held there⟩
  obtain ⟨_, _, same⟩ := queue.closeFlush_rest task
  rw [same]
  exact answered.of_same rfl rfl rfl

/-- **The account of a queue is true.** Every move keeps the state and the account in agreement. -/
theorem move (recorded : queue.Recorded account) (move : Move queue marks next) :
    next.Recorded (account ++ marks) := by
  have sound := recorded.sound.move move
  cases move with
  | register message => exact recorded.register message
  | resolve offset verdict => exact recorded.resolve offset verdict
  | background changed =>
      obtain ⟨_, _, _, _, rfl⟩ := changed.rest
      exact recorded.silent sound rfl rfl rfl fun _ _ here _ => here
  | requestLock task fresh => exact recorded.requestLock fresh
  | startRound task granted some sent =>
      have front : queue.readyOffsets <+: queue.queued.map AckEntry.offset :=
        (List.takeWhile_prefix _).map _
      exact ⟨sound, recorded.tallied.transmission sent some front,
        .transmission recorded.sound.turns granted rfl sent⟩
  | returned task done current rest message returning sent =>
      exact recorded.returned returning sent
  | cut task done current rest message fault returning nonempty =>
      exact recorded.cut fault returning nonempty
  | accepted task ready acking => exact recorded.accepted acking
  | broken task answer awaits unaccepted => exact recorded.broken awaits unaccepted
  | leave task =>
      obtain ⟨_, _, same⟩ := queue.closeFlush_rest task
      exact recorded.silent sound (by rw [same]) (by rw [same]) (by rw [same]; rfl)
        fun other phase => queue.closeFlush_sending task other

/-- Moves in a row keep the agreement of a queue and its account. -/
theorem moves (recorded : queue.Recorded account) (moves : queue.Moves marks next) :
    next.Recorded (account ++ marks) := by
  induction moves with
  | refl =>
      rw [List.append_nil]
      exact recorded
  | tail _ move ih =>
      rw [← List.append_assoc]
      exact ih.move move

/-- A stride keeps the agreement of a queue and its account. -/
theorem stride (recorded : queue.Recorded account) (stride : queue.Stride marks next) :
    next.Recorded (account ++ marks) := by
  cases stride with
  | move move => exact recorded.move move
  | silent moves silent => exact recorded.moves moves
  | opens moves task absent =>
      have middle := recorded.moves moves
      rw [List.append_nil] at middle
      refine middle.silent (middle.sound.openFlush absent) rfl rfl rfl
        fun other phase here sending => ?_
      rw [AckQueue.openFlush, Table.get?_set] at here
      split at here
      · cases here
        exact absurd sending Bool.false_ne_true
      · exact here

end Recorded

end AckQueue

end PullConsumer
