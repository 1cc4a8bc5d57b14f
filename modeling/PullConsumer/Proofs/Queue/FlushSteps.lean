import PullConsumer.Proofs.Queue.Turns

/-! # Steps of a flush as moves

A flush that goes on by itself or gets an answer makes at most one move of its queue; the lines of
that move are about this flush, and the flush is gone when it has ended (`FlushStep.Follows`). No
other flush comes or goes. The cases of such a step are `AckQueue.Proceeds` and `AckQueue.Answers`.
-/

namespace PullConsumer

/-- What a step of a flush means to its queue. -/
structure FlushStep.Follows (step : FlushStep) (queue : AckQueue) (task : TaskId) : Prop where
  acted : step.queue = queue ∧ Account.ofEffects step.effects = [] ∨
    queue.Move (.ofEffects step.effects) step.queue
  about : ∀ mark ∈ Account.ofEffects step.effects, mark.task? = some task
  runs : ∀ other, (step.queue.flushes.get? other).isSome = true ↔
    (queue.flushes.get? other).isSome = true ∧ (other = task → step.ended = none)
  loop : step.queue.loop = queue.loop
  schedule : step.queue.schedule = queue.schedule
  /-- A flush makes no consumption fail. -/
  failed : ∀ offset message, step.queue.stateOf? offset = some (.needRetry message) →
    queue.stateOf? offset = some (.needRetry message)
  /-- A flush resolves no entry but the one whose message it returns. -/
  pending : ∀ offset, queue.stateOf? offset = some .pending →
    step.queue.stateOf? offset = some .pending ∨
      ∃ done rest message, queue.flushes.get? task = some (.returning done offset rest message)
  /-- A flush that ends without failure leaves nothing to send. -/
  drained : ∀ outcome, step.ended = some (.outcome outcome) →
    (∀ entries, outcome ≠ .failed entries) → step.queue.readyOffsets = []

namespace AckQueue

variable {queue next : AckQueue} {task : TaskId}

/-! ### Who runs a flush -/

/-- Leaving the lock neither opens nor ends a flush. -/
theorem Turns.isSome_leaveLock (turns : queue.Turns) (task other : TaskId) :
    ((queue.leaveLock task).1.flushes.get? other).isSome = (queue.flushes.get? other).isSome := by
  cases holder : (queue.lock.drop task).holder with
  | none => simp only [AckQueue.leaveLock, holder]
  | some heir =>
      by_cases kept : queue.lock.holder = some heir
      · simp only [AckQueue.leaveLock, holder, kept, if_true]
      · simp only [AckQueue.leaveLock, holder, kept, if_false, Table.get?_set]
        split
        · rename_i same
          -- Who inherits the lock waited in line.
          have waits : heir ∈ queue.lock.line := by
            by_cases held : queue.lock.holder = some task
            · have passed : queue.lock.drop task = (queue.lock.withdraw task).release :=
                if_pos held
              rw [passed] at holder
              have inLine : heir ∈ (queue.lock.withdraw task).line := by
                cases line : (queue.lock.withdraw task).line with
                | nil =>
                    rw [SendLock.release, line] at holder
                    cases holder
                | cons first rest =>
                    rw [SendLock.release, line] at holder
                    cases holder
                    exact List.mem_cons_self
              exact (List.mem_filter.mp inLine).1
            · have stays : queue.lock.drop task = queue.lock.withdraw task := if_neg held
              rw [stays] at holder
              exact absurd holder kept
          rw [← same, (turns.line heir).mp waits]
          rfl
        · rfl

/-- Closing a flush ends it and no other. -/
theorem Turns.isSome_closeFlush (turns : queue.Turns) (task other : TaskId) :
    ((queue.closeFlush task).1.flushes.get? other).isSome = true ↔
      other ≠ task ∧ (queue.flushes.get? other).isSome = true := by
  change (((queue.leaveLock task).1.flushes.erase task).get? other).isSome = true ↔ _
  rw [Table.get?_erase]
  split
  · rename_i same
    exact ⟨nofun, fun both => absurd same.symm both.1⟩
  · rename_i different
    rw [turns.isSome_leaveLock]
    exact ⟨fun runs => ⟨Ne.symm different, runs⟩, And.right⟩

/-- A change of the phase of a flush neither opens nor ends one. -/
theorem isSome_set {phase : FlushPhase} (here : queue.flushes.get? task = some phase)
    (next : FlushPhase) (other : TaskId) :
    ((queue.flushes.set task next).get? other).isSome = (queue.flushes.get? other).isSome := by
  rw [Table.get?_set]
  split
  · rename_i same
    rw [← same, here]
    rfl
  · rfl

/-- A transmission is marked under its own task. -/
theorem Transmission.about {done rest : List Int} {account : Account}
    (sent : Transmission queue task done rest account next) :
    ∀ mark ∈ account, mark.task? = some task := by
  intro mark member
  cases sent with
  | sendBack passed current later message split kept nacked =>
      rw [List.mem_singleton.mp member]
      rfl
  | sendAck kept =>
      rw [List.mem_singleton.mp member]
      rfl

/-- What a flush sends is one call. -/
theorem Transmission.exists_call {done rest : List Int} {account : Account}
    (sent : Transmission queue task done rest account next) :
    ∃ call, account = [.called task call] := by
  cases sent with
  | sendBack | sendAck => exact ⟨_, rfl⟩

/-- A transmission neither begins nor ends a flush. -/
theorem Transmission.runs {phase : FlushPhase} {done rest : List Int} {account : Account}
    (sent : Transmission queue task done rest account next)
    (here : queue.flushes.get? task = some phase) (other : TaskId) :
    (next.flushes.get? other).isSome = (queue.flushes.get? other).isSome := by
  cases sent with
  | sendBack passed current later message split kept nacked => exact isSome_set here _ other
  | sendAck kept => exact isSome_set here _ other

end AckQueue

namespace FlushStep.Follows

variable {step : FlushStep} {queue : AckQueue} {task : TaskId}

/-- A step of a flush is a stride of its queue. -/
theorem stride (follows : step.Follows queue task) :
    queue.Stride (.ofEffects step.effects) step.queue := by
  rcases follows.acted with ⟨same, silent⟩ | move
  · rw [same, silent]
    exact .still queue
  · exact .move move

/-- A flush that does nothing follows its queue. -/
theorem still (queue : AckQueue) (task : TaskId) : Follows ⟨queue, [], none⟩ queue task where
  acted := .inl ⟨rfl, rfl⟩
  about := fun _ member => absurd member List.not_mem_nil
  runs := fun _ => ⟨fun runs => ⟨runs, fun _ => rfl⟩, And.left⟩
  loop := rfl
  schedule := rfl
  failed _ _ := id
  pending _ := .inl
  drained := nofun

/-- A step that does not end the flush follows its queue if its move does and every flush stays. -/
theorem stays (move : queue.Move (.ofEffects step.effects) step.queue)
    (about : ∀ mark ∈ Account.ofEffects step.effects, mark.task? = some task)
    (runs : ∀ other, (step.queue.flushes.get? other).isSome = (queue.flushes.get? other).isSome)
    (rest : step.queue.loop = queue.loop ∧ step.queue.schedule = queue.schedule)
    (failed : ∀ offset message, step.queue.stateOf? offset = some (.needRetry message) →
      queue.stateOf? offset = some (.needRetry message))
    (pending : ∀ offset, queue.stateOf? offset = some .pending →
      step.queue.stateOf? offset = some .pending ∨
        ∃ done rest message, queue.flushes.get? task = some (.returning done offset rest message))
    (unended : step.ended = none) :
    step.Follows queue task where
  acted := .inr move
  about := about
  runs other := by
    rw [runs other]
    exact ⟨fun runs => ⟨runs, fun _ => unended⟩, And.left⟩
  loop := rest.1
  schedule := rest.2
  failed := failed
  pending := pending
  drained := by
    rw [unended]
    exact nofun

/-- A step that ends the flush follows its queue if it closes that flush. -/
theorem closes (turns : queue.Turns) (closed : step.queue = (queue.closeFlush task).1)
    (move : queue.Move (.ofEffects step.effects) (queue.closeFlush task).1)
    (about : ∀ mark ∈ Account.ofEffects step.effects, mark.task? = some task)
    (ended : step.ended ≠ none) (drained : ∀ outcome, step.ended = some (.outcome outcome) →
      (∀ entries, outcome ≠ .failed entries) → queue.readyOffsets = []) :
    step.Follows queue task := by
  obtain ⟨_, _, same⟩ := queue.closeFlush_rest task
  refine ⟨.inr ?_, about, fun other => ?_, ?_, ?_, ?_, ?_, ?_⟩
  · rw [closed]
    exact move
  · rw [closed, turns.isSome_closeFlush]
    refine ⟨fun both => ⟨both.2, fun same => absurd same both.1⟩, fun both => ⟨?_, both.1⟩⟩
    exact fun same => ended (both.2 same)
  · rw [closed, same]
  · rw [closed, same]
  · rw [closed, same]
    exact fun _ _ => id
  · rw [closed, same]
    exact fun _ => .inl
  · rw [closed, same]
    exact drained

/-- A flush whose call fails or breaks down is closed. -/
theorem breaks (turns : queue.Turns) {answer : Answer Unit} {effects : List Effect}
    (closed : step.queue = (queue.closeFlush task).1)
    (told : step.effects = .answered task answer :: effects)
    (silent : Account.ofEffects effects = []) (awaits : queue.awaitsAnswer task = true)
    (unaccepted : answer ≠ .value ()) (ended : step.ended ≠ none)
    (failed : ∀ outcome, step.ended = some (.outcome outcome) →
      ∃ entries, outcome = .failed entries) :
    step.Follows queue task := by
  have lines : Account.ofEffects step.effects = [Mark.answered task answer] := by
    rw [told]
    exact congrArg (Mark.answered task answer :: ·) silent
  refine closes turns closed ?_ ?_ ended ?_
  · rw [lines]
    exact .broken task answer awaits unaccepted
  · intro mark member
    rw [lines, List.mem_singleton] at member
    rw [member]
    rfl
  · intro outcome ends unfailed
    obtain ⟨entries, same⟩ := failed outcome ends
    exact absurd same (unfailed entries)

end FlushStep.Follows

namespace AckQueue

variable {queue : AckQueue}

/-- A flush goes on by itself with at most one move. -/
theorem Turns.proceedFlush_follows (turns : queue.Turns) (task : TaskId) :
    (queue.proceedFlush task).Follows queue task := by
  cases phase : queue.flushes.get? task with
  | none =>
      have still : queue.proceedFlush task = ⟨queue, [], none⟩ := by simp only [proceedFlush, phase]
      rw [still]
      exact .still queue task
  | some phase' =>
      cases phase' with
      | fresh =>
          have asks : queue.proceedFlush task =
              ⟨(queue.proceedFlush task).queue, [], none⟩ := by
            simp only [proceedFlush, phase]
          have runs : ∀ other, ((queue.proceedFlush task).queue.flushes.get? other).isSome =
              (queue.flushes.get? other).isSome := by
            intro other
            simp only [proceedFlush, phase]
            exact isSome_set phase _ other
          obtain ⟨_, _, rest⟩ := requestLock_rest phase
          have move := Move.requestLock task phase
          rw [asks]
          refine .stays move (fun _ member => absurd member List.not_mem_nil) runs ?_ ?_ ?_ rfl
          · rw [rest]
            exact ⟨rfl, rfl⟩
          · rw [rest]
            exact fun _ _ => id
          · rw [rest]
            exact fun _ => .inl
      | granted =>
          by_cases ready : queue.readyOffsets = []
          · have ends : queue.proceedFlush task = ⟨(queue.closeFlush task).1,
                (queue.closeFlush task).2,
                some (.outcome (queue.closeFlush task).1.restOutcome)⟩ := by
              simp only [proceedFlush, phase, ready]
            rw [ends]
            refine .closes turns rfl ?_ ?_ (Option.some_ne_none _) fun _ _ _ => ready
            · rw [ofEffects_closeFlush]
              exact .leave task
            · rw [ofEffects_closeFlush]
              exact fun _ member => absurd member List.not_mem_nil
          · have sends : queue.proceedFlush task = queue.transmit task [] queue.readyOffsets := by
              simp only [proceedFlush, phase]
            obtain ⟨sent, unended⟩ := queue.transmit_sends task [] queue.readyOffsets
            obtain ⟨_, rest⟩ := sent.rest
            rw [sends]
            refine .stays (.startRound task phase ready sent) sent.about (sent.runs phase) ?_ ?_
              ?_ unended
            · rw [rest]
              exact ⟨rfl, rfl⟩
            · rw [rest]
              exact fun _ _ => id
            · rw [rest]
              exact fun _ => .inl
      | inLine | returning | acking =>
          have still : queue.proceedFlush task = ⟨queue, [], none⟩ := by
            simp only [proceedFlush, phase]
          rw [still]
          exact .still queue task

/-! ### Answers -/

/-- A panic of a call closes the flush and is passed on. -/
theorem answerFlush_panicked (awaits : queue.awaitsAnswer task = true) (text : String) :
    queue.answerFlush task (.panicked text) = ⟨(queue.closeFlush task).1,
      .answered task (.panicked text) :: (queue.closeFlush task).2, some (.panicked text)⟩ := by
  unfold awaitsAnswer at awaits
  split at awaits
  · rename_i here
    simp only [answerFlush, here]
  · rename_i here
    simp only [answerFlush, here]
  · exact absurd awaits Bool.false_ne_true

/-- A return that is taken back fails no other entry. -/
theorem failed_of_markReturned {current offset : Int} {message : Message}
    (failed : (queue.changeEntry current AckEntry.markReturned).stateOf? offset =
      some (.needRetry message)) : queue.stateOf? offset = some (.needRetry message) := by
  rw [stateOf?_markReturned] at failed
  split at failed
  · obtain ⟨_, _, completed⟩ := Option.map_eq_some_iff.mp failed
    exact nomatch completed
  · exact failed

/-- A message that is back at the broker lets the round go on. -/
theorem answerFlush_returned {done rest : List Int} {current : Int} {message : Message}
    (returning : queue.flushes.get? task = some (.returning done current rest message)) :
    (queue.answerFlush task (.value ())).Follows queue task := by
  obtain ⟨sent, unended⟩ := (queue.changeEntry current
    AckEntry.markReturned).transmit_sends task (done ++ [current]) rest
  obtain ⟨_, same⟩ := sent.rest
  have sends : queue.answerFlush task (.value ()) =
      ((queue.changeEntry current AckEntry.markReturned).transmit task (done ++ [current])
        rest).after [.answered task (.value ()), .counted .sendBack queue.labels 1] := by
    simp only [answerFlush, returning]
  rw [sends]
  refine .stays ?_ ?_ (sent.runs returning) ?_ ?_ ?_ unended
  · simp only [FlushStep.after, Account.ofEffects_append]
    exact .returned task done current rest message returning sent
  · intro mark member
    simp only [FlushStep.after, Account.ofEffects_append] at member
    rcases List.mem_append.mp member with answered | called
    · rw [List.mem_singleton.mp answered]
      rfl
    · exact sent.about mark called
  · rw [FlushStep.after, same]
    exact ⟨rfl, rfl⟩
  · rw [FlushStep.after, same]
    exact fun offset message => failed_of_markReturned
  · rw [FlushStep.after, same]
    intro offset pending
    by_cases own : offset = current
    · exact .inr ⟨done, rest, message, own ▸ returning⟩
    · exact .inl ((queue.stateOf?_markReturned current offset).trans ((if_neg own).trans pending))

/-- A message that could not be returned cuts the round, and ends the flush if nothing is left of
the round. -/
theorem Turns.answerFlush_cut (turns : queue.Turns) {done rest : List Int} {current : Int}
    {message : Message}
    (returning : queue.flushes.get? task = some (.returning done current rest message))
    (fault : Fault) : (queue.answerFlush task (.failed fault)).Follows queue task := by
  have awaits : queue.awaitsAnswer task = true := by simp only [awaitsAnswer, returning]
  cases done with
  | nil =>
      have ends : queue.answerFlush task (.failed fault) =
          (queue.failFlush task fault).after [.answered task (.failed fault)] := by
        simp only [answerFlush, returning, List.isEmpty_nil, if_true]
      rw [ends]
      exact .breaks turns rfl rfl (queue.ofEffects_failFlush task fault) awaits nofun nofun
        fun _ ends => ⟨_, (FlushEnd.outcome.inj (Option.some.inj ends)).symm⟩
  | cons first more =>
      have acks : queue.answerFlush task (.failed fault) =
          (queue.beginAck task (first :: more)).after [.answered task (.failed fault),
            .notice (.sendBackFailed queue.assignment.subject fault)] := by
        simp only [answerFlush, returning, List.isEmpty_cons, Bool.false_eq_true, if_false]
      rw [acks]
      refine .stays ?_ ?_ (fun other => isSome_set returning _ other) ⟨rfl, rfl⟩
        (fun _ _ => id) (fun _ => .inl) rfl
      · exact .cut task (first :: more) current rest message fault returning (List.cons_ne_nil _ _)
      · intro mark member
        rcases List.mem_cons.mp member with answered | called
        · rw [answered]
          rfl
        · rw [List.mem_singleton.mp called]
          rfl

/-- An acknowledgment that the broker accepts ends the round. -/
theorem Turns.answerFlush_accepted (turns : queue.Turns) {ready : List Int}
    (acking : queue.flushes.get? task = some (.acking ready)) :
    (queue.answerFlush task (.value ())).Follows queue task := by
  have settled : (queue.settle ready.length (ready.getLastD 0)).Turns := turns.of_same rfl rfl
  obtain ⟨_, _, same⟩ := (queue.settle ready.length (ready.getLastD 0)).endRound_rest task
  have ends : queue.answerFlush task (.value ()) =
      ⟨((queue.settle ready.length (ready.getLastD 0)).endRound task).1,
        [.answered task (.value ()), .counted .ackSend queue.labels 1,
          .notice (.rangeSent queue.assignment.subject (ready.getLastD 0) ready.length)] ++
          ((queue.settle ready.length (ready.getLastD 0)).endRound task).2, none⟩ := by
    simp only [answerFlush, acking]
  rw [ends]
  have states : ∀ offset, ((queue.settle ready.length (ready.getLastD 0)).endRound
      task).1.stateOf? offset = queue.stateOf? offset := by
    intro offset
    rw [same]
    exact congrArg (AckEntry.stateAt? offset)
      (queue.registered_settle ready.length (ready.getLastD 0))
  refine .stays ?_ ?_ ?_ ?_ (fun offset message => ?_) (fun offset => ?_) rfl
  · rw [Account.ofEffects_append, ofEffects_endRound]
    exact .accepted task ready acking
  · intro mark member
    rw [Account.ofEffects_append, ofEffects_endRound] at member
    rw [List.mem_singleton.mp member]
    rfl
  · intro other
    change ((((queue.settle ready.length (ready.getLastD 0)).leaveLock
      task).1.flushes.set task .fresh).get? other).isSome = _
    rw [Table.get?_set]
    split
    · rename_i here
      rw [← here, acking]
      rfl
    · exact settled.isSome_leaveLock task other
  · rw [same]
    exact ⟨rfl, rfl⟩
  · rw [states]
    exact id
  · rw [states]
    exact .inl

/-- A flush takes in an answer with at most one move. -/
theorem Turns.answerFlush_follows (turns : queue.Turns) (task : TaskId) (answer : Answer Unit) :
    (queue.answerFlush task answer).Follows queue task := by
  have panicked : ∀ text, queue.awaitsAnswer task = true →
      (queue.answerFlush task (.panicked text)).Follows queue task := by
    intro text awaits
    rw [answerFlush_panicked awaits text]
    exact .breaks turns rfl rfl (queue.ofEffects_closeFlush task) awaits nofun nofun nofun
  cases phase : queue.flushes.get? task with
  | none =>
      have still : queue.answerFlush task answer = ⟨queue, [], none⟩ := by
        simp only [AckQueue.answerFlush, phase]
      rw [still]
      exact .still queue task
  | some phase' =>
      cases phase' with
      | fresh | inLine | granted =>
          have still : queue.answerFlush task answer = ⟨queue, [], none⟩ := by
            simp only [AckQueue.answerFlush, phase]
          rw [still]
          exact .still queue task
      | returning done current rest message =>
          cases answer with
          | value result => exact answerFlush_returned phase
          | failed fault => exact turns.answerFlush_cut phase fault
          | panicked text => exact panicked text (by simp only [awaitsAnswer, phase])
      | acking ready =>
          have awaits : queue.awaitsAnswer task = true := by simp only [awaitsAnswer, phase]
          cases answer with
          | value result => exact turns.answerFlush_accepted phase
          | failed fault =>
              have ends : queue.answerFlush task (.failed fault) =
                  (queue.failFlush task fault).after
                  [.answered task (.failed fault), .counted .ackSendFail queue.labels 1] := by
                simp only [AckQueue.answerFlush, phase]
              rw [ends]
              exact .breaks turns rfl rfl (queue.ofEffects_failFlush task fault) awaits nofun nofun
                fun _ ends => ⟨_, (FlushEnd.outcome.inj (Option.some.inj ends)).symm⟩
          | panicked text => exact panicked text awaits

/-! ### The cases of a step -/

/-- What a flush that goes on by itself does to its queue, and the lines that it leaves. -/
inductive Proceeds (queue : AckQueue) (task : TaskId) : Account → AckQueue → Prop
  /-- It asks for the lock. -/
  | asks {lock : SendLock} {phase : FlushPhase} (fresh : queue.flushes.get? task = some .fresh)
      (waits : phase = .granted ∨ phase = .inLine) :
      Proceeds queue task []
        { queue with lock := lock, flushes := queue.flushes.set task phase }
  | sends {account : Account} {next : AckQueue}
      (granted : queue.flushes.get? task = some .granted)
      (sent : Transmission queue task [] queue.readyOffsets account next) :
      Proceeds queue task account next
  /-- It ends for want of ready entries. -/
  | leaves (granted : queue.flushes.get? task = some .granted) (none : queue.readyOffsets = []) :
      Proceeds queue task [] (queue.closeFlush task).1
  | idle (blocked : queue.canProceed task = false) : Proceeds queue task [] queue

/-- What a flush does on its own is one of the cases of `Proceeds`, whatever its phase. -/
theorem proceeds (queue : AckQueue) (task : TaskId) :
    queue.Proceeds task (.ofEffects (queue.proceedFlush task).effects)
      (queue.proceedFlush task).queue := by
  unfold proceedFlush
  split
  · rename_i fresh
    refine .asks fresh ?_
    split
    · exact .inl rfl
    · exact .inr rfl
  · rename_i granted
    split
    · rename_i none
      rw [ofEffects_closeFlush]
      exact .leaves granted none
    · exact .sends granted (queue.transmit_sends task [] queue.readyOffsets).1
  · rename_i unready blocked
    refine .idle ?_
    unfold canProceed
    split
    · rename_i fresh
      exact absurd fresh unready
    · rename_i granted
      exact absurd granted blocked
    · rfl

/-- What an answer does to the queue of a flush, and the lines that it leaves. -/
inductive Answers (queue : AckQueue) (task : TaskId) : Answer Unit → Account → AckQueue → Prop
  /-- A message is back at the broker, and the round goes on. -/
  | resumes {done rest : List Int} {current : Int} {message : Message} {account : Account}
      {next : AckQueue}
      (returning : queue.flushes.get? task = some (.returning done current rest message))
      (sent : Transmission (queue.changeEntry current AckEntry.markReturned) task
        (done ++ [current]) rest account next) :
      Answers queue task (.value ()) (.answered task (.value ()) :: account) next
  /-- A message could not be returned: what is ready before it is acknowledged. -/
  | cuts {done rest : List Int} {current : Int} {message : Message} (fault : Fault)
      (returning : queue.flushes.get? task = some (.returning done current rest message)) :
      Answers queue task (.failed fault) [.answered task (.failed fault),
        .called task (.sendAck queue.assignment.brokerGroup (queue.ackRequest done))]
        (queue.setPhase task (.acking done))
  | accepts {ready : List Int} (acking : queue.flushes.get? task = some (.acking ready)) :
      Answers queue task (.value ()) [.answered task (.value ())]
        ((queue.settle ready.length (ready.getLastD 0)).endRound task).1
  | fails (fault : Fault) : Answers queue task (.failed fault) [.answered task (.failed fault)]
      (queue.closeFlush task).1
  | panics (text : String) : Answers queue task (.panicked text) [.answered task (.panicked text)]
      (queue.closeFlush task).1
  /-- The flush waits for no answer. -/
  | idle (answer : Answer Unit) : Answers queue task answer [] queue

/-- What an answer does to a flush is one of the cases of `Answers`, whatever its phase. -/
theorem answers (queue : AckQueue) (task : TaskId) (answer : Answer Unit) :
    queue.Answers task answer (.ofEffects (queue.answerFlush task answer).effects)
      (queue.answerFlush task answer).queue := by
  -- A panic is told, and the flush that ends says nothing more.
  have panics : ∀ text, queue.Answers task (.panicked text)
      (.ofEffects (.answered task (.panicked text) :: (queue.closeFlush task).2))
      (queue.closeFlush task).1 := by
    intro text
    have lines : Account.ofEffects (.answered task (.panicked text) :: (queue.closeFlush task).2) =
        [.answered task (.panicked text)] :=
      congrArg (Mark.answered task (.panicked text) :: ·) (queue.ofEffects_closeFlush task)
    rw [lines]
    exact .panics text
  unfold answerFlush
  split
  · rename_i done current rest message returning
    have sent := ((queue.changeEntry current AckEntry.markReturned).transmit_sends task
      (done ++ [current]) rest).1
    rw [FlushStep.after, Account.ofEffects_append]
    exact .resumes returning sent
  · rename_i done current rest message fault returning
    split
    · rw [FlushStep.after, Account.ofEffects_append, ofEffects_failFlush]
      exact .fails fault
    · exact .cuts fault returning
  · rename_i ready acking
    dsimp only
    rw [Account.ofEffects_append, ofEffects_endRound]
    exact .accepts acking
  · rename_i fault acking
    rw [FlushStep.after, Account.ofEffects_append, ofEffects_failFlush]
    exact .fails fault
  · exact panics _
  · exact panics _
  · exact .idle _

end AckQueue

end PullConsumer
