import Mathlib.Logic.Function.Iterate
import PullConsumer.Proofs.Queue.Rounds

/-! # The intake of a batch

A batch is offered to a queue message by message. Which messages are registered depends on the
offsets registered before them (`Offers`, `AckQueue.offers_of_live`). The filter decides which of
those are completed on the spot (`AckQueue.Sound.receive_queue`) and which are delivered
(`AckQueue.receive_accepted`).
-/

namespace PullConsumer

/-- Whether an effect gives a task a reason to go on. -/
def Effect.isWake : Effect → Bool
  | .woken _ => true
  | _ => false

namespace Mark

/-- The message that a line offers for registration. -/
def message? : Mark → Option Message
  | .offered message _ => some message
  | _ => none

/-- The entry of a registered message: pending if it passes the filter, else completed. -/
def entry? (accepts : Message → Bool) : Mark → Option AckEntry
  | .offered message (.ok offset) => some ⟨offset, if accepts message then .pending else .completed⟩
  | _ => none

/-- A registered message that passes the filter. -/
def accepted? (accepts : Message → Bool) : Mark → Option Accepted
  | .offered message (.ok offset) => if accepts message then some ⟨message, offset⟩ else none
  | _ => none

/-- Whether a registered message is completed by the filter. -/
def isFiltered (accepts : Message → Bool) : Mark → Bool
  | .offered message (.ok _) => !accepts message
  | _ => false

/-- What is logged about a message that is not delivered. -/
def notice? (subject : String) (accepts : Message → Bool) : Mark → Option Notice
  | .offered message (.error fault) => some (.registrationRefused subject message.id fault)
  | .offered message (.ok _) =>
    if accepts message then none else some (.messageFiltered subject message.id)
  | _ => none

end Mark

/-- The answers to a batch that is offered above the offset `top`: a message is registered if its
offset is valid and above `top` and above all that the batch registered before it. -/
structure Offers (top : Int) (messages : List Message) (offers : Account) : Prop where
  /-- Every message gets an answer, in the order of the batch. -/
  messages : offers.map Mark.message? = messages.map some
  registered : ∀ (earlier : Account) message result later offset,
    offers = earlier ++ .offered message result :: later →
    (result = .ok offset ↔ message.pullOffset = .ok offset ∧ top < offset ∧
      ∀ lower ∈ earlier.admitted, lower < offset)
  /-- A refused message has no valid offset, or one that does not advance. -/
  refused : ∀ (earlier : Account) message fault later,
    offers = earlier ++ .offered message (.error fault) :: later →
    (∃ cause, message.pullOffset = .error cause ∧ fault = .invalidMessage cause) ∨
      ∃ offset, message.pullOffset = .ok offset ∧
        fault = .offsetRegression offset (earlier.admitted.getLastD top)

namespace Offers

variable {top offset : Int} {message : Message} {fault : Fault} {messages : List Message}
  {offers : Account}

theorem nil (top : Int) : Offers top [] [] where
  messages := rfl
  registered earlier _ _ _ _ split := by cases earlier <;> cases split
  refused earlier _ _ _ split := by cases earlier <;> cases split

/-- A message that is refused leaves the way as open as it was. -/
theorem refuse (rest : Offers top messages offers)
    (cause : (∃ cause, message.pullOffset = .error cause ∧ fault = .invalidMessage cause) ∨
      ∃ offset, message.pullOffset = .ok offset ∧ offset ≤ top ∧
        fault = .offsetRegression offset top) :
    Offers top (message :: messages) (.offered message (.error fault) :: offers) where
  messages := congrArg _ rest.messages
  registered earlier other result later offset split := by
    cases earlier with
    | nil =>
        cases split
        refine ⟨nofun, fun ⟨valid, above, _⟩ => ?_⟩
        rcases cause with ⟨cause, invalid, _⟩ | ⟨place, found, low, _⟩
        · cases valid.symm.trans invalid
        · cases valid.symm.trans found
          exact absurd above (Int.not_lt.mpr low)
    | cons first earlier =>
        cases split
        exact rest.registered earlier other result later offset rfl
  refused earlier other reason later split := by
    cases earlier with
    | nil =>
        cases split
        exact cause.imp id fun ⟨place, found, _, regression⟩ => ⟨place, found, regression⟩
    | cons first earlier =>
        cases split
        exact rest.refused earlier other reason later rfl

/-- A message that is registered is the new mark to be passed. -/
theorem register (rest : Offers offset messages offers) (valid : message.pullOffset = .ok offset)
    (above : top < offset) :
    Offers top (message :: messages) (.offered message (.ok offset) :: offers) where
  messages := congrArg _ rest.messages
  registered earlier other result later place split := by
    cases earlier with
    | nil =>
        cases split
        constructor
        · intro same
          cases same
          exact ⟨valid, above, nofun⟩
        · intro ⟨found, _, _⟩
          exact congrArg _ (Except.ok.inj (valid.symm.trans found))
    | cons first earlier =>
        cases split
        refine (rest.registered earlier other result later place rfl).trans
          (and_congr_right fun _ => ?_)
        have lines : Account.admitted (.offered message (.ok offset) :: earlier) =
            offset :: Account.admitted earlier := rfl
        rw [lines, List.forall_mem_cons]
        exact ⟨fun ⟨higher, all⟩ => ⟨Int.lt_trans above higher, higher, all⟩, And.right⟩
  refused earlier other reason later split := by
    cases earlier with
    | nil => cases split
    | cons first earlier =>
        cases split
        have lines : Account.admitted (.offered message (.ok offset) :: earlier) =
            offset :: Account.admitted earlier := rfl
        rw [lines, List.getLastD_cons]
        exact rest.refused earlier other reason later rfl

end Offers

namespace AckQueue

variable {queue : AckQueue} {offset : Int} {message : Message} {fault : Fault}

/-- A live queue refuses a message without a valid offset, and one whose offset does not advance. -/
theorem admits_eq_error (live : queue.destroyed = false)
    (refused : queue.admits message = .error fault) :
    (∃ cause, message.pullOffset = .error cause ∧ fault = .invalidMessage cause) ∨
      ∃ offset, message.pullOffset = .ok offset ∧ offset ≤ queue.window.max ∧
        fault = .offsetRegression offset queue.window.max := by
  unfold admits at refused
  rw [live] at refused
  cases found : message.pullOffset with
  | error cause =>
      simp only [found, Bool.false_eq_true, if_false, Except.error.injEq] at refused
      exact .inl ⟨cause, rfl, refused.symm⟩
  | ok offset =>
      simp only [found, Bool.false_eq_true, if_false] at refused
      split at refused
      · rename_i low
        exact .inr ⟨offset, rfl, low, (Except.error.inj refused).symm⟩
      · exact nomatch refused

/-- A live queue answers the messages of a batch by their offsets alone. -/
theorem offers_of_live (live : queue.destroyed = false) (messages : List Message) :
    Offers queue.window.max messages (queue.offers messages) := by
  induction messages generalizing queue with
  | nil => exact .nil _
  | cons message rest ih =>
      unfold offers register
      cases admits : queue.admits message with
      | error fault => exact .refuse (ih live) (admits_eq_error live admits)
      | ok offset =>
          obtain ⟨_, valid, above⟩ := (queue.admits_eq_ok_iff message offset).mp admits
          have still : (queue.append offset).destroyed = false := live
          exact .register (ih still) valid above

/-! ### What the intake leaves behind -/

/-- A queue after the answers to a batch: an entry is appended for each registered message, and the
last of them is the upper end of the window. -/
def extend (queue : AckQueue) (accepts : Message → Bool) (offers : Account) : AckQueue :=
  { queue with
    queued := queue.queued ++ offers.filterMap (Mark.entry? accepts)
    window := { queue.window with max := offers.admitted.getLastD queue.window.max }
    signal := AckSignal.raise^[offers.countP (Mark.isFiltered accepts)] queue.signal }

/-- An offset above the window has no entry yet. -/
theorem Ordered.stateOf?_above (ordered : queue.Ordered) (above : queue.window.max < offset) :
    queue.stateOf? offset = none := by
  refine Option.eq_none_iff_forall_ne_some.mpr fun state found => ?_
  have listed := (queue.exists_stateOf?_iff offset).mp ⟨state, found⟩
  have low := Increasing.le_getLastD ordered.increasing offset (List.mem_cons_of_mem _ listed)
  rw [← ordered.top] at low
  exact absurd above (Int.not_lt.mpr low)

/-- Entries below the window stay as they are when a higher offset is resolved. -/
theorem Ordered.changeAt_above (ordered : queue.Ordered) (above : queue.window.max < offset)
    (change : AckEntry → AckEntry) {entries : List AckEntry}
    (listed : ∀ entry ∈ entries, entry ∈ queue.registered) :
    AckEntry.changeAt offset change entries = entries := by
  refine (List.map_congr_left fun entry member => ?_).trans (List.map_id entries)
  have found := ordered.stateOf?_of_mem (listed entry member)
  refine if_neg fun same => ?_
  rw [same, ordered.stateOf?_above above] at found
  exact nomatch found

/-- A message that is completed on the spot touches its own entry only. -/
theorem Ordered.resolve_append (ordered : queue.Ordered) (above : queue.window.max < offset) :
    ((queue.append offset).resolve offset .complete).1 =
      { queue with
        queued := queue.queued ++ [⟨offset, .completed⟩]
        window := { queue.window with max := offset }
        signal := queue.signal.raise } := by
  have pending : (queue.append offset).stateOf? offset = some .pending := by
    rw [stateOf?_append, ordered.stateOf?_above above, if_pos rfl, Option.none_or]
  have settled := ordered.changeAt_above above (·.resolve .complete)
    fun entry (member : entry ∈ queue.settled) => List.mem_append_left _ member
  have queued := ordered.changeAt_above above (·.resolve .complete)
    fun entry (member : entry ∈ queue.queued) => List.mem_append_right _ member
  have own : AckEntry.changeAt offset (·.resolve .complete) [.fresh offset] =
      [⟨offset, .completed⟩] := by
    simp [AckEntry.changeAt, AckEntry.fresh, AckEntry.resolve, AckState.isPending, Verdict.state]
  have appended : AckEntry.changeAt offset (·.resolve .complete)
      (queue.queued ++ [.fresh offset]) = queue.queued ++ [⟨offset, .completed⟩] := by
    refine Eq.trans List.map_append ?_
    exact congr (congrArg _ queued) own
  have changed : (queue.append offset).changeEntry offset (·.resolve .complete) =
      { queue with
        queued := queue.queued ++ [⟨offset, .completed⟩]
        window := { queue.window with max := offset } } := by
    simp only [AckQueue.changeEntry, AckQueue.append, settled, appended]
  simp only [resolve, pending, if_true, changed]
  rfl

/-! ### The answers in order -/

/-- A registered message that passes the filter adds a pending entry. -/
theorem extend_accepted {accepts : Message → Bool} (passes : accepts message = true)
    (offers : Account) :
    queue.extend accepts (.offered message (.ok offset) :: offers) =
      (queue.append offset).extend accepts offers := by
  have lines : Account.admitted (.offered message (.ok offset) :: offers) =
      offset :: offers.admitted := rfl
  simp only [extend, append, lines, List.getLastD_cons, List.filterMap_cons, List.countP_cons,
    Mark.entry?, Mark.isFiltered, passes, List.append_assoc]
  rfl

/-- A registered message that the filter rejects adds a completed entry and raises the signal. -/
theorem extend_filtered {accepts : Message → Bool} (rejected : accepts message = false)
    (ordered : queue.Ordered) (above : queue.window.max < offset) (offers : Account) :
    queue.extend accepts (.offered message (.ok offset) :: offers) =
      ((queue.append offset).resolve offset .complete).1.extend accepts offers := by
  have lines : Account.admitted (.offered message (.ok offset) :: offers) =
      offset :: offers.admitted := rfl
  rw [ordered.resolve_append above]
  simp only [extend, lines, List.getLastD_cons, List.filterMap_cons, List.countP_cons,
    Mark.entry?, Mark.isFiltered, rejected, List.append_assoc]
  rfl

/-- A refused message leaves the queue as it was. -/
theorem extend_refused (accepts : Message → Bool) (offers : Account) :
    queue.extend accepts (.offered message (.error fault) :: offers) =
      queue.extend accepts offers := by
  have lines : Account.admitted (.offered message (.error fault) :: offers) = offers.admitted := rfl
  simp only [extend, lines, List.filterMap_cons, List.countP_cons, Mark.entry?, Mark.isFiltered]
  rfl

/-- What the intake of a batch leaves of a queue is read off the answers that the messages get. -/
theorem Sound.receive_queue (sound : queue.Sound) (subject : String) (accepts : Message → Bool)
    (messages : List Message) :
    (queue.receive subject accepts messages).queue =
      queue.extend accepts (queue.offers messages) := by
  induction messages generalizing queue with
  | nil =>
      simp only [receive, extend, offers, List.filterMap_nil, List.append_nil]
      rfl
  | cons message rest ih =>
      unfold receive offers register
      cases admits : queue.admits message with
      | error fault =>
          rw [extend_refused]
          exact ih sound
      | ok offset =>
          obtain ⟨_, _, above⟩ := (queue.admits_eq_ok_iff message offset).mp admits
          have appended := sound.append above
          cases passes : accepts message with
          | true =>
              rw [extend_accepted passes]
              exact ih appended
          | false =>
              rw [extend_filtered passes sound.ordered above, ← offers_resolve _ offset .complete]
              exact ih (appended.resolve offset .complete)

/-- Of the registered messages those are delivered that pass the filter. -/
theorem receive_accepted (queue : AckQueue) (subject : String) (accepts : Message → Bool)
    (messages : List Message) :
    (queue.receive subject accepts messages).accepted =
      (queue.offers messages).filterMap (Mark.accepted? accepts) := by
  induction messages generalizing queue with
  | nil => rfl
  | cons message rest ih =>
      unfold receive offers register
      cases admits : queue.admits message with
      | error fault => exact ih queue
      | ok offset =>
          cases passes : accepts message with
          | true =>
              simp only [if_true, List.filterMap_cons, Mark.accepted?, passes]
              exact congrArg _ (ih (queue.append offset))
          | false =>
              simp only [Bool.false_eq_true, if_false, List.filterMap_cons, Mark.accepted?, passes]
              rw [ih, offers_resolve]

/-- A resolution wakes the schedule at most. -/
theorem resolve_wakes (queue : AckQueue) (offset : Int) (verdict : Verdict) :
    (queue.resolve offset verdict).2.filter (!·.isWake) = [] := by
  unfold resolve
  split
  · unfold signalEffects
    split
    · split <;> rfl
    · rfl
  · rfl

/-- What is logged is read off the answers, one notice for each message that is not delivered. -/
theorem receive_notices (queue : AckQueue) (subject : String) (accepts : Message → Bool)
    (messages : List Message) :
    (queue.receive subject accepts messages).effects.filter (!·.isWake) =
      ((queue.offers messages).filterMap (Mark.notice? subject accepts)).map Effect.notice := by
  induction messages generalizing queue with
  | nil => rfl
  | cons message rest ih =>
      unfold receive offers register
      cases admits : queue.admits message with
      | error fault => exact congrArg _ (ih queue)
      | ok offset =>
          cases passes : accepts message with
          | true =>
              simp only [if_true, List.filterMap_cons, Mark.notice?, passes]
              exact ih (queue.append offset)
          | false =>
              simp only [Bool.false_eq_true, if_false, List.filterMap_cons, Mark.notice?, passes,
                List.filter_append, resolve_wakes, List.append_nil, ih]
              rw [offers_resolve]
              rfl

end AckQueue

end PullConsumer
