import PullConsumer.Ack.Flush

/-! # The account of a queue

What passes between a queue and its surroundings, in order of occurrence: the messages offered for
registration, the calls that its flushes make, and the answers that reach them. From an account one
reads off the offsets admitted (`Account.admitted`), the exchanges with the broker in the order of
the calls (`Account.exchanges`), and the ack requests sent and accepted (`Account.requests`,
`Account.accepted`).
-/

namespace PullConsumer

/-- Whether a call acknowledges messages or returns one. -/
def Call.isTransmission : Call → Bool
  | .sendAck .. | .sendBack .. => true
  | _ => false

/-- One line of the account of a queue. -/
inductive Mark
  /-- A message was offered for registration, with the answer of the queue. -/
  | offered (message : Message) (result : Except Fault Int)
  /-- A flush called a collaborator. -/
  | called (task : TaskId) (call : Call)
  /-- An answer reached a flush that still waited for it. -/
  | answered (task : TaskId) (answer : Answer Unit)

namespace Mark

/-- The line that an effect of a flush leaves in the account. -/
def ofEffect? : Effect → Option Mark
  | .called task call => some (.called task call)
  | .answered task answer => some (.answered task answer)
  | _ => none

/-- The offset that a line admits. -/
def admitted? : Mark → Option Int
  | .offered _ (.ok offset) => some offset
  | _ => none

/-- The flush that a line is about. -/
def task? : Mark → Option TaskId
  | .called task _ | .answered task _ => some task
  | .offered .. => none

end Mark

/-- A call of a collaborator, with the answer if one came while the flush still waited. -/
structure Exchange where
  task : TaskId
  call : Call
  answer : Option (Answer Unit)

namespace Exchange

/-- Hands an answer to the latest exchange of a task; the latest exchange stands first. -/
def close (task : TaskId) (answer : Answer Unit) : List Exchange → List Exchange
  | [] => []
  | exchange :: earlier =>
    if exchange.task = task then { exchange with answer := some answer } :: earlier
    else exchange :: close task answer earlier

/-- Takes a line of the account into the exchanges, the latest of which stands first. -/
def note (exchanges : List Exchange) : Mark → List Exchange
  | .called task call => ⟨task, call, none⟩ :: exchanges
  | .answered task answer => close task answer exchanges
  | .offered .. => exchanges

/-- The ack request of an exchange, if it is about one. -/
def request? (exchange : Exchange) : Option AckRequest :=
  match exchange.call with
  | .sendAck _ request => some request
  | _ => none

/-- Whether the broker accepted the call. -/
def isAccepted (exchange : Exchange) : Bool :=
  exchange.answer == some (.value ())

/-- An answer does not change which calls were made. -/
theorem map_call_close (task : TaskId) (answer : Answer Unit) (exchanges : List Exchange) :
    (close task answer exchanges).map call = exchanges.map call := by
  induction exchanges with
  | nil => rfl
  | cons exchange earlier ih =>
      unfold close
      split
      · rfl
      · rw [List.map_cons, List.map_cons, ih]

end Exchange

/-- Whether an effect is a notice or wakes a task. -/
def Effect.isRemark : Effect → Bool
  | .notice _ | .woken _ => true
  | _ => false

/-- Effects without a call, an answer or an increment among them. -/
def Effect.Remarks (effects : List Effect) : Prop :=
  ∀ effect ∈ effects, effect.isRemark = true

namespace Effect

@[simp] theorem remarks_nil : Remarks [] := nofun

@[simp] theorem remarks_cons {effect : Effect} {rest : List Effect} :
    Remarks (effect :: rest) ↔ effect.isRemark = true ∧ Remarks rest :=
  List.forall_mem_cons

@[simp] theorem remarks_append {first second : List Effect} :
    Remarks (first ++ second) ↔ Remarks first ∧ Remarks second :=
  List.forall_mem_append

/-- Notices are remarks. -/
@[simp] theorem remarks_notices {α : Type} (items : List α) (notice : α → Notice) :
    Remarks (items.map fun item => .notice (notice item)) := by
  rintro _ member
  obtain ⟨item, _, rfl⟩ := List.mem_map.mp member
  rfl

end Effect

/-- What passed between a queue and its surroundings, the earliest first. -/
abbrev Account := List Mark

namespace Account

/-- The lines that the effects of a flush leave. -/
def ofEffects (effects : List Effect) : Account :=
  effects.filterMap Mark.ofEffect?

/-- The offsets registered, in order of registration. -/
def admitted (account : Account) : List Int :=
  account.filterMap Mark.admitted?

/-- The exchanges of an account, the latest call first. -/
def latest (account : Account) : List Exchange :=
  account.foldl Exchange.note []

/-- The exchanges of an account in the order of the calls. -/
def exchanges (account : Account) : List Exchange :=
  account.latest.reverse

/-- The ack requests sent, whatever became of them, in the order of the calls. -/
def requests (account : Account) : List AckRequest :=
  account.exchanges.filterMap Exchange.request?

/-- The ack requests that the broker accepted, in the order of the calls. -/
def accepted (account : Account) : List AckRequest :=
  (account.exchanges.filter Exchange.isAccepted).filterMap Exchange.request?

/-- The calls that the broker accepted, in the order of the calls. -/
def acceptedCalls (account : Account) : List Call :=
  (account.exchanges.filter Exchange.isAccepted).map Exchange.call

variable (account : Account)

theorem admitted_append (more : Account) :
    (account ++ more).admitted = account.admitted ++ more.admitted :=
  List.filterMap_append

theorem latest_append (more : Account) :
    (account ++ more).latest = more.foldl Exchange.note account.latest :=
  List.foldl_append

@[simp] theorem ofEffects_nil : ofEffects [] = [] := rfl

@[simp] theorem ofEffects_cons (effect : Effect) (rest : List Effect) :
    ofEffects (effect :: rest) = (Mark.ofEffect? effect).toList ++ ofEffects rest := by
  rw [ofEffects, List.filterMap_cons]
  cases Mark.ofEffect? effect <;> rfl

@[simp] theorem ofEffects_append (first second : List Effect) :
    ofEffects (first ++ second) = ofEffects first ++ ofEffects second :=
  List.filterMap_append

/-- Remarks leave no line in an account. -/
@[simp] theorem ofEffects_of_remarks {effects : List Effect} (remarks : Effect.Remarks effects) :
    ofEffects effects = [] := by
  refine List.filterMap_eq_nil_iff.mpr fun effect member => ?_
  have remark := remarks effect member
  cases effect with
  | notice | woken => rfl
  | counted | recorderFailed | called | answered | responded | hooked => cases remark

/-- A call begins an exchange that has no answer yet. -/
theorem exchanges_called (task : TaskId) (call : Call) :
    (account ++ [Mark.called task call]).exchanges = account.exchanges ++ [⟨task, call, none⟩] := by
  rw [exchanges, latest_append]
  exact List.reverse_cons

/-- An answer to the call made last closes its exchange. -/
theorem exchanges_answered {task : TaskId} {call : Call} {earlier : List Exchange}
    (answer : Answer Unit) (latest : account.latest = ⟨task, call, none⟩ :: earlier) :
    (account ++ [Mark.answered task answer]).exchanges =
      earlier.reverse ++ [⟨task, call, some answer⟩] := by
  rw [exchanges, latest_append, latest]
  simp only [List.foldl_cons, List.foldl_nil, Exchange.note, Exchange.close, if_true,
    List.reverse_cons]

/-- Sending an ack request adds it to the requests. -/
theorem requests_called_sendAck (task : TaskId) (brokerGroup : String) (request : AckRequest) :
    (account ++ [Mark.called task (.sendAck brokerGroup request)]).requests =
      account.requests ++ [request] := by
  rw [requests, exchanges_called, List.filterMap_append]
  rfl

/-- A message on its way back is no request. -/
theorem requests_called_sendBack (task : TaskId) (brokerGroup : String) (message : Message) :
    (account ++ [Mark.called task (.sendBack brokerGroup message)]).requests =
      account.requests := by
  rw [requests, exchanges_called, List.filterMap_append]
  exact List.append_nil _

/-- An answer is no request. -/
theorem requests_answered (task : TaskId) (answer : Answer Unit) :
    (account ++ [Mark.answered task answer]).requests = account.requests := by
  have same : ∀ exchanges : List Exchange, exchanges.filterMap Exchange.request? =
      (exchanges.map Exchange.call).filterMap fun call => Exchange.request? ⟨0, call, none⟩ := by
    intro exchanges
    rw [List.filterMap_map]
    rfl
  rw [requests, requests, same, same, exchanges, exchanges, List.map_reverse, List.map_reverse,
    latest_append]
  exact congrArg _ (congrArg _ (Exchange.map_call_close task answer account.latest))

/-- A call is not accepted before it is answered. -/
theorem acceptedCalls_called (task : TaskId) (call : Call) :
    (account ++ [Mark.called task call]).acceptedCalls = account.acceptedCalls := by
  rw [acceptedCalls, exchanges_called, List.filter_append, List.map_append]
  exact List.append_nil _

/-- Offered messages change nothing about the calls. -/
theorem latest_append_offered {more : Account}
    (offered : ∀ mark ∈ more, ∃ message result, mark = Mark.offered message result) :
    Account.latest (account ++ more) = account.latest := by
  rw [latest_append]
  generalize account.latest = exchanges
  induction more with
  | nil => rfl
  | cons mark rest ih =>
      obtain ⟨message, result, rfl⟩ := offered mark List.mem_cons_self
      exact ih fun other member => offered other (List.mem_cons_of_mem _ member)

/-- Offers leave the accepted calls alone. -/
theorem acceptedCalls_append_offered {more : Account}
    (offered : ∀ mark ∈ more, ∃ message result, mark = Mark.offered message result) :
    Account.acceptedCalls (account ++ more) = account.acceptedCalls := by
  rw [acceptedCalls, acceptedCalls, exchanges, exchanges, account.latest_append_offered offered]

/-- An answer to the call made last decides whether that call is accepted. -/
theorem acceptedCalls_answered {task : TaskId} {call : Call} {earlier : List Exchange}
    (answer : Answer Unit) (latest : account.latest = ⟨task, call, none⟩ :: earlier) :
    (account ++ [Mark.answered task answer]).acceptedCalls =
      account.acceptedCalls ++ if answer = .value () then [call] else [] := by
  have before : account.exchanges = earlier.reverse ++ [⟨task, call, none⟩] := by
    rw [exchanges, latest, List.reverse_cons]
  rw [acceptedCalls, acceptedCalls, exchanges_answered account answer latest, before,
    List.filter_append, List.map_append, List.filter_append, List.map_append]
  have unanswered : [(⟨task, call, none⟩ : Exchange)].filter Exchange.isAccepted = [] := rfl
  rw [unanswered, List.map_nil, List.append_nil]
  congr 1
  by_cases value : answer = .value ()
  · subst value
    rfl
  · have refused : [(⟨task, call, some answer⟩ : Exchange)].filter Exchange.isAccepted = [] := by
      simp [Exchange.isAccepted, value]
    rw [refused, if_neg value, List.map_nil]

/-- The accepted requests are those among the accepted calls. -/
theorem accepted_eq : account.accepted =
    account.acceptedCalls.filterMap fun call => Exchange.request? ⟨0, call, none⟩ := by
  rw [accepted, acceptedCalls, List.filterMap_map]
  rfl

/-- A call leaves the accepted requests alone. -/
theorem accepted_called (task : TaskId) (call : Call) :
    (account ++ [Mark.called task call]).accepted = account.accepted := by
  rw [accepted_eq, accepted_eq, acceptedCalls_called]

/-- An answer to the call made last decides whether its request is accepted. -/
theorem accepted_answered {task : TaskId} {call : Call} {earlier : List Exchange}
    (answer : Answer Unit) (latest : account.latest = ⟨task, call, none⟩ :: earlier) :
    (account ++ [Mark.answered task answer]).accepted = account.accepted ++
      if answer = .value () then (Exchange.request? ⟨task, call, none⟩).toList else [] := by
  rw [accepted_eq, accepted_eq, acceptedCalls_answered account answer latest, List.filterMap_append]
  congr 1
  split
  · cases call <;> rfl
  · rfl

end Account

end PullConsumer
