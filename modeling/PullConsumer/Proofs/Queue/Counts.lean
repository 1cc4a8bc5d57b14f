import PullConsumer.Proofs.Queue.FlushSteps
import PullConsumer.Proofs.Queue.Tiling

/-! # What a queue counts

Every exchange of a queue with the broker belongs to one counter at most (`Exchange.metric?`). A
queue counts when an answer reaches a flush that waits for it, and then it makes the one increment
that the exchange calls for (`AckQueue.increments_answerFlush`); the exchanges of its account that
belong to a counter grow by as many (`AckQueue.Recorded.tally_answerFlush`).
-/

namespace PullConsumer

/-- An increment of a counter. -/
structure Increment where
  metric : Metric
  labels : Labels
  amount : Nat
deriving DecidableEq

/-- The increment that an effect makes. -/
def Effect.increment? : Effect → Option Increment
  | .counted metric labels amount => some ⟨metric, labels, amount⟩
  | _ => none

/-- The increments among effects, in their order. -/
def Increment.ofEffects (effects : List Effect) : List Increment :=
  effects.filterMap Effect.increment?

@[simp] theorem Increment.ofEffects_append (first second : List Effect) :
    ofEffects (first ++ second) = ofEffects first ++ ofEffects second :=
  List.filterMap_append

@[simp] theorem Increment.ofEffects_nil : ofEffects [] = [] := rfl

@[simp] theorem Increment.ofEffects_cons (effect : Effect) (rest : List Effect) :
    ofEffects (effect :: rest) = effect.increment?.toList ++ ofEffects rest := by
  rw [ofEffects, List.filterMap_cons]
  cases effect.increment? <;> rfl

/-- Remarks count nothing. -/
@[simp] theorem Increment.ofEffects_of_remarks {effects : List Effect}
    (remarks : Effect.Remarks effects) : ofEffects effects = [] := by
  refine List.filterMap_eq_nil_iff.mpr fun effect member => ?_
  have remark := remarks effect member
  cases effect with
  | notice | woken => rfl
  | counted | recorderFailed | called | answered | responded | hooked => cases remark

/-- The counter that an exchange of a flush with the broker belongs to. A call without an answer,
one at which the broker broke down, and a message that could not be returned belong to none. -/
def Exchange.metric? (exchange : Exchange) : Option Metric :=
  match exchange.call, exchange.answer with
  | .sendAck .., some (.value ()) => some .ackSend
  | .sendAck .., some (.failed _) => some .ackSendFail
  | .sendBack .., some (.value ()) => some .sendBack
  | _, _ => none

/-- The counters that exchanges belong to. -/
theorem Exchange.metric?_mem {exchange : Exchange} {metric : Metric}
    (belongs : exchange.metric? = some metric) :
    metric ∈ [Metric.ackSend, .ackSendFail, .sendBack] := by
  unfold metric? at belongs
  split at belongs
  · rw [← Option.some.inj belongs]
    decide
  · rw [← Option.some.inj belongs]
    decide
  · rw [← Option.some.inj belongs]
    decide
  · exact nomatch belongs

/-- The number of exchanges of an account that belong to a counter. -/
def Account.tally (account : Account) (metric : Metric) : Nat :=
  account.exchanges.countP fun exchange => exchange.metric? = some metric

namespace Account

variable (account : Account)

/-- The tally depends on the exchanges only. -/
theorem tally_congr {first second : Account} (latest : second.latest = first.latest) :
    second.tally = first.tally := by
  funext metric
  rw [tally, tally, exchanges, exchanges, latest]

/-- Offered messages belong to no counter. -/
theorem tally_append_offered {more : Account}
    (offered : ∀ mark ∈ more, ∃ message result, mark = Mark.offered message result) :
    tally (account ++ more) = account.tally :=
  tally_congr (account.latest_append_offered offered)

/-- A call belongs to no counter before it is answered. -/
theorem tally_called (task : TaskId) (call : Call) :
    tally (account ++ [.called task call]) = account.tally := by
  funext metric
  have unanswered : Exchange.metric? ⟨task, call, none⟩ ≠ some metric := by
    cases call <;> exact nofun
  rw [tally, exchanges_called, List.countP_append, List.countP_singleton,
    decide_eq_false unanswered]
  rfl

/-- The answer to the call made last decides which counter the exchange belongs to. -/
theorem tally_answered {task : TaskId} {call : Call} {earlier : List Exchange}
    (answer : Answer Unit) (latest : account.latest = ⟨task, call, none⟩ :: earlier)
    (metric : Metric) :
    tally (account ++ [.answered task answer]) metric = account.tally metric +
      if Exchange.metric? ⟨task, call, some answer⟩ = some metric then 1 else 0 := by
  have unanswered : Exchange.metric? ⟨task, call, none⟩ ≠ some metric := by
    cases call <;> exact nofun
  have before : account.exchanges = earlier.reverse ++ [⟨task, call, none⟩] := by
    rw [exchanges, latest, List.reverse_cons]
  rw [tally, tally, exchanges_answered account answer latest, before, List.countP_append,
    List.countP_append, List.countP_singleton, List.countP_singleton, decide_eq_false unanswered]
  simp only [decide_eq_true_eq, Bool.false_eq_true, if_false, Nat.add_zero]

end Account

namespace AckQueue

variable (queue : AckQueue) (task : TaskId)

/-! ### Increments -/

/-- What a flush sends is counted when it is answered, and not before. -/
theorem increments_transmit (done rest : List Int) :
    Increment.ofEffects (queue.transmit task done rest).effects = [] := by
  induction rest generalizing done with
  | nil => rfl
  | cons offset rest ih =>
      unfold transmit
      split
      · rfl
      · exact ih (done ++ [offset])

/-- A flush that goes on by itself counts nothing. -/
@[simp] theorem increments_proceedFlush :
    Increment.ofEffects (queue.proceedFlush task).effects = [] := by
  unfold proceedFlush
  split
  · rfl
  · split
    · exact Increment.ofEffects_of_remarks (queue.remarks_closeFlush task)
    · exact queue.increments_transmit task [] _
  · rfl

/-! ### Answers -/

variable {queue} {task} {account : Account} {call : Call}

/-- What an answer to the call of a flush brings about: it is told, it is counted if it belongs to a
counter, and then the flush calls once more at most and counts nothing. -/
theorem answerFlush_effects (waits : (queue.flushes.get? task).bind queue.callOf? = some call)
    (answer : Answer Unit) : ∃ later : List Effect, ∃ next : Option Call,
      (queue.answerFlush task answer).effects = .answered task answer ::
        ((Exchange.metric? ⟨task, call, some answer⟩).map
          (Effect.counted · queue.labels 1)).toList ++ later ∧
      Account.ofEffects later = next.toList.map (Mark.called task) ∧
      Increment.ofEffects later = [] := by
  obtain ⟨phase, here, calls⟩ := Option.bind_eq_some_iff.mp waits
  have closes := queue.ofEffects_closeFlush task
  have leaves := Increment.ofEffects_of_remarks (queue.remarks_closeFlush task)
  have fails := fun fault => queue.ofEffects_failFlush task fault
  have breaks := fun fault => Increment.ofEffects_of_remarks (queue.remarks_failFlush task fault)
  cases phase with
  | fresh | inLine | granted => exact nomatch calls
  | returning done current rest message =>
      cases calls
      simp only [AckQueue.answerFlush, here]
      cases answer with
      | value =>
          have silent := (queue.changeEntry current AckEntry.markReturned).increments_transmit task
            (done ++ [current]) rest
          obtain ⟨next, called⟩ := ((queue.changeEntry current AckEntry.markReturned).transmit_sends
            task (done ++ [current]) rest).1.exists_call
          exact ⟨_, some next, rfl, called, silent⟩
      | failed fault =>
          dsimp only
          split
          · exact ⟨_, none, rfl, fails fault, breaks fault⟩
          · exact ⟨_, some _, rfl, rfl, rfl⟩
      | panicked text => exact ⟨_, none, rfl, closes, leaves⟩
  | acking ready =>
      cases calls
      simp only [AckQueue.answerFlush, here]
      cases answer with
      | value =>
          have ends := (queue.settle ready.length (ready.getLastD 0)).ofEffects_endRound task
          have silent := Increment.ofEffects_of_remarks
            ((queue.settle ready.length (ready.getLastD 0)).remarks_leaveLock task)
          exact ⟨_, none, rfl, ends, silent⟩
      | failed fault => exact ⟨_, none, rfl, fails fault, breaks fault⟩
      | panicked text => exact ⟨_, none, rfl, closes, leaves⟩

/-- A flush that waits for no answer takes none. -/
theorem answerFlush_unawaited (idle : (queue.flushes.get? task).bind queue.callOf? = none)
    (answer : Answer Unit) : queue.answerFlush task answer = ⟨queue, [], none⟩ := by
  cases phase : queue.flushes.get? task with
  | none => simp only [AckQueue.answerFlush, phase]
  | some phase' =>
      rw [phase] at idle
      cases phase' with
      | fresh | inLine | granted => simp only [AckQueue.answerFlush, phase]
      | returning | acking => cases idle

variable (queue task) in
/-- The counter that the answer to the call of a flush belongs to, if the flush waits for one. -/
def counted? (answer : Answer Unit) : Option Metric :=
  ((queue.flushes.get? task).bind queue.callOf?).bind fun call =>
    Exchange.metric? ⟨task, call, some answer⟩

/-- **One increment per answer.** The answer to the call of a flush is counted for its queue, once,
and under the counter that it belongs to. -/
theorem increments_answerFlush (answer : Answer Unit) :
    Increment.ofEffects (queue.answerFlush task answer).effects =
      ((queue.counted? task answer).map fun metric => ⟨metric, queue.labels, 1⟩).toList := by
  cases waits : (queue.flushes.get? task).bind queue.callOf? with
  | none =>
      rw [answerFlush_unawaited waits, counted?, waits]
      rfl
  | some call =>
      obtain ⟨later, _, effects, _, silent⟩ := answerFlush_effects waits answer
      rw [effects, Increment.ofEffects_append, silent, List.append_nil, counted?, waits,
        Option.bind_some]
      cases Exchange.metric? ⟨task, call, some answer⟩ <;> rfl

/-- **One exchange per answer.** What an answer adds to the account of a queue is one exchange of
the counter that it belongs to. -/
theorem Recorded.tally_answerFlush (recorded : queue.Recorded account) (answer : Answer Unit)
    (metric : Metric) :
    Account.tally (account ++ .ofEffects (queue.answerFlush task answer).effects) metric =
      account.tally metric + if queue.counted? task answer = some metric then 1 else 0 := by
  cases waits : (queue.flushes.get? task).bind queue.callOf? with
  | none =>
      rw [answerFlush_unawaited waits, counted?, waits]
      exact congrArg (Account.tally · metric) (List.append_nil account)
  | some call =>
      obtain ⟨phase, here, calls⟩ := Option.bind_eq_some_iff.mp waits
      obtain ⟨earlier, latest⟩ := recorded.awaited task phase call here calls
      obtain ⟨later, next, effects, lines, _⟩ := answerFlush_effects waits answer
      have told : Account.ofEffects (queue.answerFlush task answer).effects =
          [.answered task answer] ++ next.toList.map (Mark.called task) := by
        rw [effects, Account.ofEffects_append, lines]
        cases Exchange.metric? ⟨task, call, some answer⟩ <;> rfl
      rw [told, ← List.append_assoc, counted?, waits, Option.bind_some,
        ← account.tally_answered answer latest]
      cases next with
      | none => exact congrArg (Account.tally · metric) (List.append_nil _)
      | some next => exact congrFun (Account.tally_called _ task next) metric

/-- A flush that goes on by itself gets no answer. -/
theorem tally_proceedFlush (queue : AckQueue) (task : TaskId) (account : Account) :
    Account.tally (account ++ .ofEffects (queue.proceedFlush task).effects) = account.tally := by
  have proceeds := queue.proceeds task
  generalize Account.ofEffects (queue.proceedFlush task).effects = lines,
    (queue.proceedFlush task).queue = next at proceeds ⊢
  cases proceeds with
  | sends granted sent =>
      obtain ⟨call, rfl⟩ := sent.exists_call
      exact account.tally_called task call
  | asks | leaves | idle => rw [List.append_nil]

end AckQueue

end PullConsumer
