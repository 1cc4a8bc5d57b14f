import PullConsumer.Proofs.Queue.Coverage
import PullConsumer.Proofs.Queue.FlushSteps

/-! # Messages that go back to the broker

The account of a queue does not say which entry a returned message belongs to, nor what the
application decided about it. The log of its returns (`ReturnLog`) says both. Whatever a queue goes
through, the log is orderly (`ReturnLog.Orderly`): a message is asked back only after its entry was
rejected and never after it was taken back, and its offset is acknowledged only after that.
-/

namespace PullConsumer

/-- One line about the return of messages. -/
inductive ReturnMark
  /-- The application rejects a message whose entry is pending. -/
  | rejected (offset : Int) (message : Message)
  /-- A flush asks the broker to take back the message of an entry. -/
  | asked (offset : Int) (brokerGroup : String) (message : Message)
  /-- The broker has taken back the message of an entry. -/
  | returned (offset : Int) (message : Message)
  /-- A flush asks the broker for an acknowledgment. -/
  | acknowledging (brokerGroup : String) (request : AckRequest)

/-- The call that a line is about. -/
def ReturnMark.call? : ReturnMark → Option Call
  | .asked _ brokerGroup message => some (.sendBack brokerGroup message)
  | .acknowledging brokerGroup request => some (.sendAck brokerGroup request)
  | _ => none

/-- The message that a line reports to be back at the broker. -/
def ReturnMark.returned? : ReturnMark → Option Message
  | .returned _ message => some message
  | _ => none

/-- The message that a call returns. -/
def Call.returned? : Call → Option Message
  | .sendBack _ message => some message
  | _ => none

/-- The call that a line of an account reports. -/
def Mark.call? : Mark → Option Call
  | .called _ call => some call
  | _ => none

/-- What a queue tells about the return of its messages, the earliest first. -/
abbrev ReturnLog := List ReturnMark

namespace ReturnLog

variable {log : ReturnLog} {brokerGroup : String}

/-- The messages with which the entry of an offset was rejected. -/
def rejections (offset : Int) (log : ReturnLog) : List Message :=
  log.filterMap fun
    | .rejected other message => if other = offset then some message else none
    | _ => none

/-- The messages that the broker took back for the entry of an offset. -/
def returns (offset : Int) (log : ReturnLog) : List Message :=
  log.filterMap fun
    | .returned other message => if other = offset then some message else none
    | _ => none

theorem rejections_append (offset : Int) (log : ReturnLog) (mark : ReturnMark) :
    rejections offset (log ++ [mark]) = rejections offset log ++ rejections offset [mark] :=
  List.filterMap_append

theorem returns_append (offset : Int) (log : ReturnLog) (mark : ReturnMark) :
    returns offset (log ++ [mark]) = returns offset log ++ returns offset [mark] :=
  List.filterMap_append

/-- A message is among the rejections of its offset if the log has it. -/
theorem mem_rejections {offset : Int} {message : Message} :
    message ∈ rejections offset log ↔ ReturnMark.rejected offset message ∈ log := by
  refine List.mem_filterMap.trans ⟨?_, fun member => ⟨_, member, if_pos rfl⟩⟩
  rintro ⟨mark, member, reads⟩
  cases mark with
  | rejected other rejected =>
      dsimp only at reads
      split at reads
      · rename_i same
        cases reads
        exact same ▸ member
      · exact nomatch reads
  | asked | returned | acknowledging => exact nomatch reads

/-- Every message is asked back under the broker group of the queue, as it was rejected before and
only then, and not after it was taken back. Of the rejected messages that a request covers each was
taken back once before the request. -/
structure Orderly (brokerGroup : String) (log : ReturnLog) : Prop where
  once : ∀ offset, (log.returns offset).length ≤ 1
  asked : ∀ earlier offset group message, earlier ++ [.asked offset group message] <+: log →
    group = brokerGroup ∧ rejections offset earlier = [message] ∧ returns offset earlier = []
  acknowledging : ∀ earlier group request, earlier ++ [.acknowledging group request] <+: log →
    ∀ offset message, ReturnMark.rejected offset message ∈ log → request.Covers offset →
      returns offset earlier = [message]

/-- A further line keeps a log orderly, if it is in order itself. -/
theorem Orderly.append (orderly : log.Orderly brokerGroup) (mark : ReturnMark)
    (once : ∀ offset, (returns offset (log ++ [mark])).length ≤ 1)
    (asked : ∀ offset group message, mark = .asked offset group message →
      group = brokerGroup ∧ rejections offset log = [message] ∧ returns offset log = [])
    (acknowledging : ∀ group request, mark = .acknowledging group request →
      ∀ offset message, ReturnMark.rejected offset message ∈ log → request.Covers offset →
        returns offset log = [message])
    (rejected : ∀ offset message, mark = .rejected offset message →
      ∀ group request, ReturnMark.acknowledging group request ∈ log →
        ¬ request.Covers offset) : Orderly brokerGroup (log ++ [mark]) where
  once := once
  asked earlier offset group message front := by
    rcases List.prefix_concat_iff.mp front with whole | before
    · obtain ⟨rfl, last⟩ := List.append_inj' whole rfl
      exact asked offset group message (List.cons.inj last).1.symm
    · exact orderly.asked earlier offset group message before
  acknowledging earlier group request front offset message member covers := by
    rcases List.prefix_concat_iff.mp front with whole | before
    · obtain ⟨rfl, last⟩ := List.append_inj' whole rfl
      obtain rfl := (List.cons.inj last).1
      refine acknowledging group request rfl offset message ?_ covers
      rcases List.mem_append.mp member with old | new
      · exact old
      · exact nomatch List.mem_singleton.mp new
    · rcases List.mem_append.mp member with old | new
      · exact orderly.acknowledging earlier group request before offset message old covers
      · have sent : ReturnMark.acknowledging group request ∈ log :=
          before.subset (List.mem_append_right _ (List.mem_singleton_self _))
        exact absurd covers
          (rejected offset message (List.mem_singleton.mp new).symm group request sent)

/-- Whether the rejections and returns of an entry agree with its state. -/
def Agrees (rejections returns : List Message) : Option AckState → Prop
  | some (.needRetry message) => rejections = [message] ∧ returns = []
  | some .completed => rejections.length ≤ 1 ∧ returns = rejections
  | none | some .pending => rejections = [] ∧ returns = []

/-- A rejected message is returned once at most. -/
theorem Agrees.once {rejections returns : List Message} {state : Option AckState}
    (agrees : Agrees rejections returns state) : returns.length ≤ 1 := by
  have single : returns = [] ∨ returns = rejections ∧ rejections.length ≤ 1 := by
    cases state with
    | none => exact .inl agrees.2
    | some state =>
        cases state with
        | pending | needRetry => exact .inl agrees.2
        | completed => exact .inr ⟨agrees.2, agrees.1⟩
  rcases single with none | ⟨same, once⟩
  · rw [none]
    exact Nat.zero_le 1
  · rw [same]
    exact once

end ReturnLog

namespace AckQueue

variable {queue next : AckQueue} {account marks : Account} {log : ReturnLog} {task : TaskId}

/-- The entry whose message a flush returns at the moment, with that message. -/
def returning? (queue : AckQueue) (task : TaskId) : Option (Int × Message) :=
  match queue.flushes.get? task with
  | some (.returning _ current _ message) => some (current, message)
  | _ => none

/-- The line that a line of the account of a queue leaves in the log of its returns. -/
def returnMark? (queue next : AckQueue) : Mark → Option ReturnMark
  | .called task (.sendBack brokerGroup message) =>
    (next.returning? task).map fun held => .asked held.1 brokerGroup message
  | .called _ (.sendAck brokerGroup request) => some (.acknowledging brokerGroup request)
  | .answered task (.value ()) =>
    (queue.returning? task).map fun held => .returned held.1 held.2
  | _ => none

/-- No entry is rejected or returned, and none is registered below the end of the window. -/
structure KeepsRejections (queue next : AckQueue) : Prop where
  assignment : next.assignment = queue.assignment
  top : queue.window.max ≤ next.window.max
  states : ∀ offset, next.stateOf? offset = queue.stateOf? offset ∨
    (queue.stateOf? offset = none ∧ queue.window.max < offset ∨
      queue.stateOf? offset = some .pending) ∧
    (next.stateOf? offset = some .pending ∨ next.stateOf? offset = some .completed)

namespace KeepsRejections

theorem of_same (assignment : next.assignment = queue.assignment)
    (top : next.window.max = queue.window.max)
    (registered : next.registered = queue.registered) : queue.KeepsRejections next where
  assignment := assignment
  top := Int.le_of_eq top.symm
  states offset := .inl (by rw [stateOf?, stateOf?, registered])

theorem trans {middle : AckQueue} (first : queue.KeepsRejections middle)
    (second : middle.KeepsRejections next) :
    queue.KeepsRejections next where
  assignment := second.assignment.trans first.assignment
  top := Int.le_trans first.top second.top
  states offset := by
    rcases second.states offset with same | ⟨unresolved, after⟩
    · rw [same]
      exact first.states offset
    · refine .inr ⟨?_, after⟩
      rcases first.states offset with same | ⟨before, _⟩
      · rw [same] at unresolved
        exact unresolved.imp_left fun new =>
          ⟨new.1, Int.lt_of_le_of_lt first.top new.2⟩
      · exact before

/-- A registration adds an entry that is not rejected. -/
theorem register (queue : AckQueue) (message : Message) :
    queue.KeepsRejections (queue.register message).1 := by
  cases admits : queue.admits message with
  | error fault =>
      simp only [AckQueue.register, admits]
      exact .of_same rfl rfl rfl
  | ok offset =>
      simp only [AckQueue.register, admits]
      have above := ((queue.admits_eq_ok_iff message offset).mp admits).2.2
      refine ⟨rfl, Int.le_of_lt above, fun other => ?_⟩
      rw [stateOf?_append]
      cases found : queue.stateOf? other with
      | some state => exact .inl rfl
      | none =>
          by_cases same : offset = other
          · rw [if_pos same]
            exact .inr ⟨.inl ⟨rfl, same ▸ above⟩, .inl rfl⟩
          · rw [if_neg same]
            exact .inl rfl

/-- A resolution keeps the rejections unless it rejects a message. -/
theorem resolve {offset : Int} {verdict : Verdict}
    (unrejected : ∀ message, (queue.resolve offset verdict).1.stateOf? offset =
      some (.needRetry message) → queue.stateOf? offset = some (.needRetry message)) :
    queue.KeepsRejections (queue.resolve offset verdict).1 where
  assignment := (Move.resolve offset verdict : queue.Move _ _).assignment
  top := by
    obtain ⟨_, _, _, same, _⟩ := queue.resolve_rest offset verdict
    exact Int.le_of_eq (by rw [same])
  states other := by
    have moved := queue.stateOf?_resolve offset other verdict
    by_cases hit : other = offset ∧ queue.stateOf? offset = some .pending
    · obtain ⟨rfl, pending⟩ := hit
      rw [if_pos ⟨rfl, pending⟩] at moved
      cases verdict with
      | complete => exact .inr ⟨.inr pending, .inr moved⟩
      | retry message =>
          have before := unrejected message moved
          exact nomatch before.symm.trans pending
    · rw [if_neg hit] at moved
      exact .inl moved

/-- A step of the schedule touches no rejection. -/
theorem background (changed : queue.Background next) : queue.KeepsRejections next := by
  obtain ⟨_, _, _, _, rfl⟩ := changed.rest
  exact .of_same rfl rfl rfl

/-- Asking for the lock touches no rejection. -/
theorem requestLock (fresh : queue.flushes.get? task = some .fresh) :
    queue.KeepsRejections (queue.proceedFlush task).queue := by
  obtain ⟨_, _, same⟩ := requestLock_rest fresh
  rw [same]
  exact .of_same rfl rfl rfl

/-- The end of a flush touches no rejection. -/
theorem closeFlush (queue : AckQueue) (task : TaskId) :
    queue.KeepsRejections (queue.closeFlush task).1 := by
  obtain ⟨_, _, same⟩ := queue.closeFlush_rest task
  rw [same]
  exact .of_same rfl rfl rfl

end KeepsRejections

/-- The log of the returns is orderly and agrees with the entries and the account. -/
structure Traced (queue : AckQueue) (account : Account) (log : ReturnLog) : Prop where
  orderly : log.Orderly queue.assignment.brokerGroup
  states : ∀ offset,
    ReturnLog.Agrees (log.rejections offset) (log.returns offset) (queue.stateOf? offset)
  /-- Below the end of an acknowledgment nothing is unresolved any more, or still to come. -/
  passed : ∀ group request, ReturnMark.acknowledging group request ∈ log → ∀ offset,
    request.Covers offset → offset ≤ queue.window.max ∧
      (queue.stateOf? offset = none ∨ queue.stateOf? offset = some .completed)
  returned : log.filterMap ReturnMark.returned? =
    account.acceptedCalls.filterMap Call.returned?

namespace Traced

/-- Nothing is told of a queue without entries. -/
theorem of_empty (empty : queue.registered = []) : queue.Traced [] [] where
  orderly := by
    refine ⟨fun _ => Nat.zero_le 1, fun earlier _ _ _ front => ?_, fun earlier _ _ front => ?_⟩
    · exact absurd (List.prefix_nil.mp front) (List.append_ne_nil_of_right_ne_nil _ nofun)
    · exact absurd (List.prefix_nil.mp front) (List.append_ne_nil_of_right_ne_nil _ nofun)
  states offset := by
    have none : queue.stateOf? offset = none := by
      rw [stateOf?, empty]
      rfl
    rw [none]
    exact ⟨rfl, rfl⟩
  passed _ _ member := absurd member List.not_mem_nil
  returned := rfl

/-- What keeps the rejections keeps the log of the returns right. -/
theorem kept (traced : queue.Traced account log) (keeps : queue.KeepsRejections next) :
    next.Traced account log where
  orderly := by
    rw [keeps.assignment]
    exact traced.orderly
  states offset := by
    have agrees := traced.states offset
    rcases keeps.states offset with same | ⟨before, after⟩
    · rw [same]
      exact agrees
    · -- Of an entry that was not resolved nothing is told yet.
      have untold : log.rejections offset = [] ∧ log.returns offset = [] := by
        rcases before with ⟨none, _⟩ | pending
        · rw [none] at agrees
          exact agrees
        · rw [pending] at agrees
          exact agrees
      rcases after with pending | completed
      · rw [pending]
        exact untold
      · rw [completed, untold.1, untold.2]
        exact ⟨Nat.zero_le 1, rfl⟩
  passed group request sent offset covers := by
    obtain ⟨low, resolved⟩ := traced.passed group request sent offset covers
    refine ⟨Int.le_trans low keeps.top, ?_⟩
    rcases keeps.states offset with same | ⟨⟨_, above⟩ | pending, _⟩
    · rw [same]
      exact resolved
    · exact absurd low (Int.not_le.mpr above)
    · rw [pending] at resolved
      exact absurd resolved nofun
  returned := traced.returned

/-- What says nothing about accepted calls says nothing about returns. -/
theorem of_account (traced : queue.Traced account log) {more : Account}
    (same : more.acceptedCalls.filterMap Call.returned? =
      account.acceptedCalls.filterMap Call.returned?) : queue.Traced more log where
  orderly := traced.orderly
  states := traced.states
  passed := traced.passed
  returned := traced.returned.trans same.symm

/-- Messages that are offered concern no return. -/
theorem offered (traced : queue.Traced account log)
    (offered : ∀ mark ∈ marks, ∃ message result, mark = .offered message result) :
    queue.Traced (account ++ marks) log := by
  refine traced.of_account ?_
  rw [account.acceptedCalls_append_offered offered]

/-- The application rejects a message. -/
theorem rejected (traced : queue.Traced account log) {offset : Int}
    (pending : queue.stateOf? offset = some .pending) (message : Message) :
    (queue.resolve offset (.retry message)).1.Traced account
      (log ++ [.rejected offset message]) := by
  obtain ⟨_, _, _, same, _⟩ := queue.resolve_rest offset (.retry message)
  have untold := traced.states offset
  rw [pending] at untold
  have states : ∀ other, ReturnLog.Agrees
      (ReturnLog.rejections other (log ++ [.rejected offset message]))
      (ReturnLog.returns other (log ++ [.rejected offset message]))
      ((queue.resolve offset (.retry message)).1.stateOf? other) := by
    intro other
    rw [stateOf?_resolve, ReturnLog.rejections_append, ReturnLog.returns_append]
    by_cases hit : other = offset
    · subst hit
      rw [if_pos ⟨rfl, pending⟩, untold.1, untold.2]
      simp [ReturnLog.Agrees, ReturnLog.rejections, ReturnLog.returns, Verdict.state]
    · rw [if_neg fun both => hit both.1]
      simpa [ReturnLog.rejections, ReturnLog.returns, Ne.symm hit] using traced.states other
  refine ⟨?_, states, fun group request sent other covers => ?_, ?_⟩
  · rw [same]
    refine traced.orderly.append _ (fun other => (states other).once) nofun nofun ?_
    intro other rejected made group request sent covers
    cases made
    have resolved := (traced.passed group request sent offset covers).2
    rw [pending] at resolved
    exact absurd resolved nofun
  · rcases List.mem_append.mp sent with old | new
    · obtain ⟨low, resolved⟩ := traced.passed group request old other covers
      rw [stateOf?_resolve, if_neg ?_, same]
      · exact ⟨low, resolved⟩
      · rintro ⟨rfl, _⟩
        rw [pending] at resolved
        exact absurd resolved nofun
    · exact nomatch List.mem_singleton.mp new
  · rw [List.filterMap_append, traced.returned]
    exact List.append_nil _

/-- A flush asks the broker to take a message back. -/
theorem asked (traced : queue.Traced account log) {offset : Int} {message : Message}
    (rejected : queue.stateOf? offset = some (.needRetry message)) (task : TaskId) :
    queue.Traced
      (account ++ [.called task (.sendBack queue.assignment.brokerGroup message)])
      (log ++ [.asked offset queue.assignment.brokerGroup message]) := by
  have told := traced.states offset
  rw [rejected] at told
  have states : ∀ other, ReturnLog.Agrees
      (ReturnLog.rejections other (log ++ [.asked offset queue.assignment.brokerGroup message]))
      (ReturnLog.returns other (log ++ [.asked offset queue.assignment.brokerGroup message]))
      (queue.stateOf? other) := by
    intro other
    rw [ReturnLog.rejections_append, ReturnLog.returns_append]
    simpa [ReturnLog.rejections, ReturnLog.returns] using traced.states other
  refine ⟨?_, states, fun group request sent => ?_, ?_⟩
  · refine traced.orderly.append _ (fun other => (states other).once) ?_ nofun nofun
    intro other group asked made
    cases made
    exact ⟨rfl, told⟩
  · rcases List.mem_append.mp sent with old | new
    · exact traced.passed group request old
    · exact nomatch List.mem_singleton.mp new
  · rw [List.filterMap_append, traced.returned, Account.acceptedCalls_called]
    exact List.append_nil _

/-- A flush asks the broker for the acknowledgment of what it has in hand. -/
theorem acknowledging (traced : queue.Traced account log) {request : AckRequest}
    (low : ∀ offset, request.Covers offset → offset ≤ queue.window.max)
    (completed : ∀ offset, request.Covers offset →
      queue.stateOf? offset = none ∨ queue.stateOf? offset = some .completed)
    (task : TaskId) (brokerGroup : String) :
    queue.Traced (account ++ [.called task (.sendAck brokerGroup request)])
      (log ++ [.acknowledging brokerGroup request]) := by
  have states : ∀ other, ReturnLog.Agrees
      (ReturnLog.rejections other (log ++ [.acknowledging brokerGroup request]))
      (ReturnLog.returns other (log ++ [.acknowledging brokerGroup request]))
      (queue.stateOf? other) := by
    intro other
    rw [ReturnLog.rejections_append, ReturnLog.returns_append]
    simpa [ReturnLog.rejections, ReturnLog.returns] using traced.states other
  refine ⟨?_, states, fun group other sent => ?_, ?_⟩
  · refine traced.orderly.append _ (fun other => (states other).once) nofun ?_ nofun
    intro group other made offset message rejected covers
    cases made
    have told := traced.states offset
    have member := ReturnLog.mem_rejections.mpr rejected
    rcases completed offset covers with none | done
    · rw [none] at told
      rw [told.1] at member
      exact absurd member List.not_mem_nil
    · rw [done] at told
      obtain ⟨once, same⟩ := told
      -- The one rejection is the only one.
      obtain ⟨only, single⟩ := List.length_eq_one_iff.mp
        (Nat.le_antisymm once (List.length_pos_of_mem member))
      rw [single, List.mem_singleton] at member
      rw [same, single, member]
  · rcases List.mem_append.mp sent with old | new
    · exact traced.passed group other old
    · cases List.mem_singleton.mp new
      exact fun offset covers => ⟨low offset covers, completed offset covers⟩
  · rw [List.filterMap_append, traced.returned, Account.acceptedCalls_called]
    exact List.append_nil _

/-- The broker has taken a message back. -/
theorem taken (traced : queue.Traced account log) {offset : Int} {message : Message}
    (rejected : queue.stateOf? offset = some (.needRetry message))
    {brokerGroup : String} {earlier : List Exchange}
    (latest : account.latest = ⟨task, .sendBack brokerGroup message, none⟩ :: earlier) :
    (queue.changeEntry offset AckEntry.markReturned).Traced
      (account ++ [.answered task (.value ())]) (log ++ [.returned offset message]) := by
  have told := traced.states offset
  rw [rejected] at told
  have states : ∀ other, ReturnLog.Agrees
      (ReturnLog.rejections other (log ++ [.returned offset message]))
      (ReturnLog.returns other (log ++ [.returned offset message]))
      ((queue.changeEntry offset AckEntry.markReturned).stateOf? other) := by
    intro other
    rw [stateOf?_markReturned, ReturnLog.rejections_append, ReturnLog.returns_append]
    by_cases hit : other = offset
    · subst hit
      rw [if_pos rfl, rejected, told.1, told.2]
      simp [ReturnLog.Agrees, ReturnLog.rejections, ReturnLog.returns]
    · rw [if_neg hit]
      simpa [ReturnLog.rejections, ReturnLog.returns, Ne.symm hit] using traced.states other
  refine ⟨?_, states, fun group request sent other covers => ?_, ?_⟩
  · exact traced.orderly.append _ (fun other => (states other).once) nofun nofun nofun
  · rcases List.mem_append.mp sent with old | new
    · obtain ⟨low, resolved⟩ := traced.passed group request old other covers
      refine ⟨low, ?_⟩
      rw [stateOf?_markReturned]
      split
      · exact resolved.imp (fun none => by rw [none]; rfl) fun done => by rw [done]; rfl
      · exact resolved
    · exact nomatch List.mem_singleton.mp new
  · rw [List.filterMap_append, traced.returned, account.acceptedCalls_answered (.value ()) latest,
      if_pos rfl, List.filterMap_append]
    rfl

/-- An answer that takes no message back. -/
theorem answered (traced : queue.Traced account log) {call : Call} {earlier : List Exchange}
    (latest : account.latest = ⟨task, call, none⟩ :: earlier) (answer : Answer Unit)
    (kept : answer = .value () → call.returned? = none) :
    queue.Traced (account ++ [.answered task answer]) log := by
  refine traced.of_account ?_
  rw [account.acceptedCalls_answered answer latest, List.filterMap_append]
  split
  · rename_i value
    rw [List.filterMap_cons, kept value]
    exact List.append_nil _
  · exact List.append_nil _

end Traced

/-- A batch is offered and makes no call. -/
theorem offered_of_mem_offers {messages : List Message} {mark : Mark}
    (member : mark ∈ queue.offers messages) :
    ∃ message result, mark = .offered message result := by
  induction messages generalizing queue with
  | nil => exact absurd member List.not_mem_nil
  | cons message rest ih =>
      rcases List.mem_cons.mp member with rfl | later
      · exact ⟨_, _, rfl⟩
      · exact ih later

/-! ### Flushes -/

/-- A state is found at an offset only where an entry with that offset is registered. -/
theorem exists_of_stateOf? {offset : Int} {state : AckState}
    (found : queue.stateOf? offset = some state) :
    ∃ entry ∈ queue.registered, entry.offset = offset ∧ entry.state = state := by
  obtain ⟨entry, finds, same⟩ := Option.map_eq_some_iff.mp found
  exact ⟨entry, List.mem_of_find?_eq_some finds, by simpa using List.find?_some finds, same⟩

/-- Below the end of the acknowledgment that a flush waits for nothing is unresolved or to come. -/
theorem Sound.covered (sound : queue.Sound) {ready : List Int}
    (here : queue.flushes.get? task = some (.acking ready)) {offset : Int}
    (covers : (queue.ackRequest ready).Covers offset) :
    offset ≤ queue.window.max ∧
      (queue.stateOf? offset = none ∨ queue.stateOf? offset = some .completed) := by
  obtain ⟨nonempty, front, _⟩ := sound.fits task _ here
  obtain ⟨_, _, completed⟩ := sound.acking here
  constructor
  · have listed : ready.getLastD 0 ∈ ready := Increasing.getLastD_mem nonempty
    obtain ⟨entry, member, last⟩ := List.mem_map.mp (front.subset listed)
    exact Int.le_trans covers.2 (Int.le_trans (Int.le_of_eq last.symm) (sound.ordered.below member))
  · cases found : queue.stateOf? offset with
    | none => exact .inl rfl
    | some state =>
        obtain ⟨entry, member, rfl, rfl⟩ := exists_of_stateOf? found
        rw [completed entry member covers.2]
        exact .inr rfl

namespace Traced

/-- What a flush sends leaves one line. -/
theorem transmission (traced : queue.Traced account log) {done rest : List Int}
    (sent : Transmission queue task done rest marks next) (sound : next.Sound)
    (before : AckQueue) :
    next.Traced (account ++ marks) (log ++ marks.filterMap (before.returnMark? next)) := by
  obtain ⟨_, same⟩ := sent.rest
  have moved : next.Traced account log := by
    rw [same]
    exact traced.kept (.of_same rfl rfl rfl)
  cases sent with
  | sendBack passed current later message split kept nacked =>
      have held : (queue.setPhase task (.returning (done ++ passed) current later
          message)).returning? task = some (current, message) := by
        simp only [returning?, setPhase, Table.get?_set, if_true]
      have line : before.returnMark? (queue.setPhase task (.returning (done ++ passed) current later
          message)) (.called task (.sendBack queue.assignment.brokerGroup message)) =
          some (.asked current queue.assignment.brokerGroup message) := by
        simp only [returnMark?, held, Option.map_some]
      rw [List.filterMap_cons, line]
      exact moved.asked nacked task
  | sendAck kept =>
      have waits : (queue.setPhase task (.acking (done ++ rest))).flushes.get? task =
          some (.acking (done ++ rest)) := (Table.get?_set ..).trans (if_pos rfl)
      exact moved.acknowledging (fun _ covers => (sound.covered waits covers).1)
        (fun _ covers => (sound.covered waits covers).2) task queue.assignment.brokerGroup

/-- The broker has taken a message back, and the flush goes on. -/
theorem resumes (traced : queue.Traced account log) (sound : queue.Sound)
    (awaited : queue.Awaited account) {done rest : List Int} {current : Int} {message : Message}
    (returning : queue.flushes.get? task = some (.returning done current rest message))
    (sent : Transmission (queue.changeEntry current AckEntry.markReturned) task (done ++ [current])
      rest marks next) (after : next.Sound) :
    next.Traced (account ++ .answered task (.value ()) :: marks)
      (log ++ (Mark.answered task (.value ()) :: marks).filterMap (queue.returnMark? next)) := by
  obtain ⟨earlier, latest⟩ := awaited task _ _ returning rfl
  obtain ⟨_, _, rejected, _⟩ := sound.fits task _ returning
  have line : queue.returnMark? next (.answered task (.value ())) =
      some (.returned current message) := by
    simp only [returnMark?, returning?, returning, Option.map_some]
  have taken := traced.taken rejected latest
  rw [List.filterMap_cons, line, List.append_cons, List.append_cons log]
  exact taken.transmission sent after queue

/-- The broker has refused a message, and the flush acknowledges what comes before it. -/
theorem cut (traced : queue.Traced account log) (awaited : queue.Awaited account)
    {done rest : List Int} {current : Int} {message : Message}
    (returning : queue.flushes.get? task = some (.returning done current rest message))
    (fault : Fault) (after : (queue.setPhase task (.acking done)).Sound) :
    (queue.setPhase task (.acking done)).Traced
      (account ++ [.answered task (.failed fault),
        .called task (.sendAck queue.assignment.brokerGroup (queue.ackRequest done))])
      (log ++ [.acknowledging queue.assignment.brokerGroup (queue.ackRequest done)]) := by
  obtain ⟨earlier, latest⟩ := awaited task _ _ returning rfl
  have waits : (queue.setPhase task (.acking done)).flushes.get? task =
      some (.acking done) := (Table.get?_set ..).trans (if_pos rfl)
  have refused : (queue.setPhase task (.acking done)).Traced
      (account ++ [.answered task (.failed fault)]) log :=
    (traced.answered latest (.failed fault) nofun).kept (.of_same rfl rfl rfl)
  rw [List.append_cons]
  exact refused.acknowledging (fun _ covers => (after.covered waits covers).1)
    (fun _ covers => (after.covered waits covers).2) task queue.assignment.brokerGroup

/-- An acknowledgment that the broker accepts takes no message back. -/
theorem accepted (traced : queue.Traced account log) (awaited : queue.Awaited account)
    {ready : List Int} (acking : queue.flushes.get? task = some (.acking ready)) :
    ((queue.settle ready.length (ready.getLastD 0)).endRound task).1.Traced
      (account ++ [.answered task (.value ())])
      (log ++ [Mark.answered task (.value ())].filterMap (queue.returnMark?
        ((queue.settle ready.length (ready.getLastD 0)).endRound task).1)) := by
  obtain ⟨earlier, latest⟩ := awaited task _ _ acking rfl
  obtain ⟨_, _, same⟩ := (queue.settle ready.length (ready.getLastD 0)).endRound_rest task
  have line : queue.returnMark? ((queue.settle ready.length (ready.getLastD 0)).endRound
      task).1 (.answered task (.value ())) = none := by
    simp only [returnMark?, returning?, acking, Option.map_none]
  rw [List.filterMap_cons, line, List.filterMap_nil, List.append_nil]
  refine (traced.answered latest (.value ()) fun _ => rfl).kept (.of_same ?_ ?_ ?_)
  · rw [same]
    rfl
  · rw [same]
    rfl
  · rw [same]
    exact queue.registered_settle ready.length (ready.getLastD 0)

/-- A flush that breaks takes no message back. -/
theorem broken (traced : queue.Traced account log) (awaited : queue.Awaited account)
    {answer : Answer Unit} (awaits : queue.awaitsAnswer task = true)
    (unaccepted : answer ≠ .value ()) :
    (queue.closeFlush task).1.Traced (account ++ [.answered task answer])
      (log ++ [Mark.answered task answer].filterMap
        (queue.returnMark? (queue.closeFlush task).1)) := by
  obtain ⟨phase, call, here, calls⟩ := exists_callOf?_of_awaitsAnswer awaits
  obtain ⟨earlier, latest⟩ := awaited task phase call here calls
  have line : queue.returnMark? (queue.closeFlush task).1 (.answered task answer) = none := by
    cases answer with
    | value result => exact absurd rfl unaccepted
    | failed | panicked => rfl
  rw [List.filterMap_cons, line, List.filterMap_nil, List.append_nil]
  exact (traced.answered latest answer fun value => absurd value unaccepted).kept
    (.closeFlush queue task)

/-- A step of a flush leaves the lines of its calls and answers. -/
theorem follows (traced : queue.Traced account log) (sound : queue.Sound)
    (awaited : queue.Awaited account) {step : FlushStep} (follows : step.Follows queue task) :
    step.queue.Traced (account ++ .ofEffects step.effects)
      (log ++ (Account.ofEffects step.effects).filterMap (queue.returnMark? step.queue)) := by
  have acted := follows.acted
  have about := follows.about
  have failed := follows.failed
  generalize step.queue = next at acted failed
  generalize Account.ofEffects step.effects = marks at acted about
  have keeps : queue.KeepsRejections next → next.Traced (account ++ [])
      (log ++ ([] : Account).filterMap (queue.returnMark? next)) := by
    rw [List.filterMap_nil, List.append_nil, List.append_nil]
    exact traced.kept
  rcases acted with ⟨rfl, rfl⟩ | move
  · exact keeps (.of_same rfl rfl rfl)
  · have after := sound.move move
    cases move with
    | register message => exact nomatch about _ (List.mem_singleton_self _)
    | resolve offset verdict => exact keeps (.resolve fun message => failed offset message)
    | background changed => exact keeps (.background changed)
    | requestLock other fresh => exact keeps (.requestLock fresh)
    | startRound other granted some sent => exact traced.transmission sent after queue
    | returned other done current rest message returning sent =>
        exact traced.resumes sound awaited returning sent after
    | cut other done current rest message fault returning nonempty =>
        exact traced.cut awaited returning fault after
    | accepted other ready acking => exact traced.accepted awaited acking
    | broken other answer awaits unaccepted => exact traced.broken awaited awaits unaccepted
    | leave other => exact keeps (.closeFlush queue other)

end Traced

end AckQueue

end PullConsumer
