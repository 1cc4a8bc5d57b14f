import PullConsumer.Proofs.Queue.Batches
import PullConsumer.Proofs.Queue.Returns

/-! # The lives of entries

The log of an entry (`LifeLog`) has a line for its registration, one for each call that asks to
resolve it, with what the call reports, and one for the return of its message. Whatever a queue goes
through, the log leads to the state of the entry (`LifeLog.LeadsTo`), and a log that leads to a
state tells of a life in which one call took effect (`LifeLog.Lived`).
-/

namespace PullConsumer

/-- One line about the life of an entry. -/
inductive LifeMark
  | registered
  /-- A call resolves the entry, or comes late, and reports which. -/
  | asked (verdict : Verdict) (effective : Bool)
  /-- The broker has taken the message back. -/
  | returned
deriving DecidableEq

namespace LifeMark

/-- The state in which a line puts the entry. -/
def enters? : LifeMark → Option AckState
  | .registered => some .pending
  | .asked verdict true => some verdict.state
  | .asked _ false => none
  | .returned => some .completed

/-- What the call of a line reports. -/
def report? : LifeMark → Option Bool
  | .asked _ effective => some effective
  | _ => none

/-- The message with which a line makes the consumption fail. -/
def rejects? : LifeMark → Option Message
  | .asked (.retry message) true => some message
  | _ => none

end LifeMark

/-- What is told of an entry, the earliest first. -/
abbrev LifeLog := List LifeMark

namespace LifeLog

variable {log : LifeLog} {state : AckState} {message : Message}

/-- The states that the entry went through. -/
def states (log : LifeLog) : List AckState :=
  log.filterMap LifeMark.enters?

/-- What the calls that ask for a verdict report, in order. -/
def reports (log : LifeLog) : List Bool :=
  log.filterMap LifeMark.report?

/-- The messages with which the consumption failed. -/
def rejections (log : LifeLog) : List Message :=
  log.filterMap LifeMark.rejects?

theorem states_concat (log : LifeLog) (mark : LifeMark) :
    states (log ++ [mark]) = log.states ++ mark.enters?.toList := by
  unfold states
  rw [List.filterMap_append]
  refine congrArg _ ?_
  cases enters : mark.enters? with
  | none => exact List.filterMap_cons_none enters
  | some state => exact List.filterMap_cons_some enters

theorem reports_concat (log : LifeLog) (mark : LifeMark) :
    reports (log ++ [mark]) = log.reports ++ mark.report?.toList := by
  unfold reports
  rw [List.filterMap_append]
  cases mark <;> rfl

theorem rejections_append (first second : LifeLog) :
    rejections (first ++ second) = first.rejections ++ second.rejections :=
  List.filterMap_append

/-- The first call that asks for a verdict takes effect, and none after it. -/
def Once (log : LifeLog) : Prop :=
  ∃ late, log.reports = true :: List.replicate late false

/-- What the log of an entry says that is not pending any more: the states that it went through, the
messages with which its consumption failed, and that one call took effect. -/
structure Resolved (log : LifeLog) (states : List AckState) (rejections : List Message) : Prop where
  states : log.states = states
  rejections : log.rejections = rejections
  once : log.Once

/-- What a log says of an entry that is in a state, or that is not there. -/
def LeadsTo (log : LifeLog) : Option AckState → Prop
  | none => log = []
  | some .pending => log = [.registered]
  | some (.needRetry message) => log.Resolved [.pending, .needRetry message] [message]
  | some .completed => log.Resolved [.pending, .completed] [] ∨
      ∃ message, log.Resolved [.pending, .needRetry message, .completed] [message]

/-- The life of an entry: the states that it went through, with the messages with which its
consumption failed, and the calls that took effect. -/
structure Lived (log : LifeLog) : Prop where
  history : log.rejections = [] ∧ log.states <+: [.pending, .completed] ∨
    ∃ message, log.rejections = [message] ∧
      log.states <+: [.pending, .needRetry message, .completed]
  once : log.reports = [] ∨ log.Once

/-! ### Lines -/

/-- A call that comes late leaves everything but the reports. -/
theorem Resolved.late {states : List AckState} {rejections : List Message}
    (resolved : log.Resolved states rejections) (verdict : Verdict) :
    Resolved (log ++ [.asked verdict false]) states rejections where
  states := by
    rw [states_concat, resolved.states]
    exact List.append_nil states
  rejections := by
    rw [rejections_append, resolved.rejections]
    cases verdict <;> exact List.append_nil rejections
  once := by
    obtain ⟨late, reports⟩ := resolved.once
    refine ⟨late + 1, ?_⟩
    rw [reports_concat, reports, List.replicate_succ']
    rfl

namespace LeadsTo

/-- A call that finds the entry pending takes effect. -/
theorem resolve (leads : log.LeadsTo (some .pending)) (verdict : Verdict) :
    LeadsTo (log ++ [.asked verdict true]) (some verdict.state) := by
  obtain rfl : log = [.registered] := leads
  cases verdict with
  | complete => exact .inl ⟨rfl, rfl, 0, rfl⟩
  | retry message => exact ⟨rfl, rfl, 0, rfl⟩

/-- A call that finds the entry resolved comes late. -/
theorem late (leads : log.LeadsTo (some state)) (resolved : state ≠ .pending) (verdict : Verdict) :
    LeadsTo (log ++ [.asked verdict false]) (some state) := by
  cases state with
  | pending => exact absurd rfl resolved
  | needRetry message => exact Resolved.late leads verdict
  | completed =>
      exact Or.imp (·.late verdict) (fun ⟨message, lived⟩ => ⟨message, lived.late verdict⟩) leads

/-- Only a failed message goes back. -/
theorem takeBack (leads : log.LeadsTo (some (.needRetry message))) :
    LeadsTo (log ++ [.returned]) (some .completed) := by
  obtain ⟨states, rejections, late, reports⟩ : log.Resolved _ _ := leads
  refine .inr ⟨message, ?_, ?_, late, ?_⟩
  · rw [states_concat, states]
    rfl
  · rw [rejections_append, rejections]
    rfl
  · rw [reports_concat, reports]
    exact List.append_nil _

/-- The state is the last that the entry went through. -/
theorem current {state : Option AckState} (leads : log.LeadsTo state) :
    state = log.states.getLast? := by
  cases state with
  | none =>
      obtain rfl : log = [] := leads
      rfl
  | some state =>
      cases state with
      | pending =>
          obtain rfl : log = [.registered] := leads
          rfl
      | needRetry message =>
          rw [Resolved.states leads]
          rfl
      | completed =>
          rcases leads with lived | ⟨message, lived⟩
          · rw [lived.states]
            rfl
          · rw [lived.states]
            rfl

/-- Whatever state a log leads to, it is that of a life. -/
theorem lived {state : Option AckState} (leads : log.LeadsTo state) : log.Lived := by
  cases state with
  | none =>
      obtain rfl : log = [] := leads
      exact ⟨.inl ⟨rfl, List.nil_prefix⟩, .inl rfl⟩
  | some state =>
      cases state with
      | pending =>
          obtain rfl : log = [.registered] := leads
          exact ⟨.inl ⟨rfl, List.prefix_append [AckState.pending] [.completed]⟩, .inl rfl⟩
      | needRetry message =>
          obtain ⟨states, rejections, once⟩ : log.Resolved _ _ := leads
          refine ⟨.inr ⟨message, rejections, ?_⟩, .inr once⟩
          rw [states]
          exact List.prefix_append [AckState.pending, .needRetry message] [.completed]
      | completed =>
          rcases leads with ⟨states, rejections, once⟩ | ⟨message, states, rejections, once⟩
          · exact ⟨.inl ⟨rejections, states ▸ List.prefix_rfl⟩, .inr once⟩
          · exact ⟨.inr ⟨message, rejections, states ▸ List.prefix_rfl⟩, .inr once⟩

end LeadsTo

/-- Once the consumption failed, no line that follows makes it fail again or succeed. -/
theorem Lived.rejected {more : LifeLog} (lived : Lived (log ++ more))
    (rejects : message ∈ log.rejections) :
    rejections (log ++ more) = [message] ∧
      states (log ++ more) <+: [.pending, .needRetry message, .completed] := by
  have still : message ∈ rejections (log ++ more) := by
    rw [rejections_append]
    exact List.mem_append_left _ rejects
  rcases lived.history with ⟨none, _⟩ | ⟨other, only, states⟩
  · exact absurd (none ▸ still) List.not_mem_nil
  · cases List.mem_singleton.mp (only ▸ still)
    exact ⟨only, states⟩

end LifeLog

/-- What the answer to a message of a batch tells of an entry: a message that is registered and
rejected by the filter is completed on the spot. -/
def Mark.begins (accepts : Message → Bool) (offset : Int) : Mark → LifeLog
  | .offered message (.ok place) =>
    if place = offset then
      if accepts message then [.registered] else [.registered, .asked .complete true]
    else []
  | _ => []

namespace AckQueue

variable {queue next : AckQueue} {offset : Int} {log : LifeLog} {task : TaskId}

/-- What a line about a flush tells of an entry. -/
def takesBack? (queue : AckQueue) (offset : Int) : Mark → Option LifeMark
  | .answered task (.value ()) =>
    if (queue.returning? task).map Prod.fst = some offset then some .returned else none
  | _ => none

/-- The states are read from the registered entries. -/
theorem stateOf?_congr (same : next.registered = queue.registered) (offset : Int) :
    next.stateOf? offset = queue.stateOf? offset := by
  rw [stateOf?, stateOf?, same]

/-! ### Resolutions -/

/-- A call resolves its entry if that is pending, comes late if it is resolved, and is of no concern
to any other. -/
theorem leadsTo_resolve (leads : log.LeadsTo (queue.stateOf? offset)) (place : Int)
    (verdict : Verdict) :
    LifeLog.LeadsTo
      (log ++ if place = offset ∧ (queue.stateOf? offset).isSome then
        [.asked verdict (queue.stateOf? offset == some .pending)] else [])
      ((queue.resolve place verdict).1.stateOf? offset) := by
  rw [stateOf?_resolve]
  by_cases own : place = offset ∧ (queue.stateOf? offset).isSome
  · rw [if_pos own]
    obtain ⟨rfl, present⟩ := own
    obtain ⟨state, found⟩ := Option.isSome_iff_exists.mp present
    rw [found] at leads ⊢
    by_cases pending : state = .pending
    · subst pending
      rw [if_pos ⟨rfl, rfl⟩, beq_self_eq_true]
      exact leads.resolve verdict
    · have late : some state ≠ some AckState.pending := fun same => pending (Option.some.inj same)
      rw [if_neg fun both => late both.2, beq_eq_false_iff_ne.mpr late]
      exact leads.late pending verdict
  · rw [if_neg own, List.append_nil, if_neg]
    · exact leads
    · rintro ⟨rfl, pending⟩
      exact own ⟨rfl, by rw [pending]; rfl⟩

/-! ### Intake -/

/-- A message that is registered begins the life of its entry, and is of no concern to others. -/
theorem Ordered.leadsTo_append (ordered : queue.Ordered) {message : Message} {place : Int}
    (above : queue.window.max < place) (leads : log.LeadsTo (queue.stateOf? offset))
    {accepts : Message → Bool} (passes : accepts message = true) :
    LifeLog.LeadsTo (log ++ Mark.begins accepts offset (.offered message (.ok place)))
      ((queue.append place).stateOf? offset) := by
  rw [stateOf?_append, Mark.begins, if_pos passes]
  by_cases same : place = offset
  · subst same
    rw [ordered.stateOf?_above above] at leads ⊢
    obtain rfl : log = [] := leads
    rw [if_pos rfl, if_pos rfl]
    rfl
  · rw [if_neg same, if_neg same, Option.or_none, List.append_nil]
    exact leads

/-- A message that the filter rejects is registered and completed. -/
theorem Ordered.leadsTo_filter (ordered : queue.Ordered) {message : Message} {place : Int}
    (above : queue.window.max < place) (leads : log.LeadsTo (queue.stateOf? offset))
    {accepts : Message → Bool} (rejected : accepts message = false) :
    LifeLog.LeadsTo (log ++ Mark.begins accepts offset (.offered message (.ok place)))
      (((queue.append place).resolve place .complete).1.stateOf? offset) := by
  have pending : (queue.append place).stateOf? place = some .pending := by
    rw [stateOf?_append, ordered.stateOf?_above above, if_pos rfl, Option.none_or]
  rw [stateOf?_resolve, Mark.begins, rejected, if_neg Bool.false_ne_true]
  by_cases same : place = offset
  · subst same
    rw [ordered.stateOf?_above above] at leads
    obtain rfl : log = [] := leads
    have begun : LifeLog.LeadsTo [.registered] (some .pending) := rfl
    rw [if_pos rfl, if_pos ⟨rfl, pending⟩]
    exact begun.resolve .complete
  · rw [if_neg same, if_neg fun both => same both.1.symm, stateOf?_append, if_neg same,
      Option.or_none, List.append_nil]
    exact leads

/-- The intake of a batch tells of the entries that it registers. -/
theorem Sound.leadsTo_receive (sound : queue.Sound) (leads : log.LeadsTo (queue.stateOf? offset))
    (subject : String) (accepts : Message → Bool) (messages : List Message) :
    LifeLog.LeadsTo (log ++ (queue.offers messages).flatMap (Mark.begins accepts offset))
      ((queue.receive subject accepts messages).queue.stateOf? offset) := by
  induction messages generalizing queue log with
  | nil =>
      rw [offers, List.flatMap_nil, List.append_nil]
      exact leads
  | cons message rest ih =>
      unfold receive offers register
      rw [List.flatMap_cons, ← List.append_assoc]
      cases admits : queue.admits message with
      | error fault =>
          have silent : Mark.begins accepts offset (.offered message (.error fault)) = [] := rfl
          rw [silent, List.append_nil]
          exact ih sound leads
      | ok place =>
          obtain ⟨_, _, above⟩ := (queue.admits_eq_ok_iff message place).mp admits
          have appended := sound.append above
          cases passes : accepts message with
          | true => exact ih appended (sound.ordered.leadsTo_append above leads passes)
          | false =>
              have filtered := ih (appended.resolve place .complete)
                (sound.ordered.leadsTo_filter above leads passes)
              rw [offers_resolve] at filtered
              exact filtered

/-! ### Flushes -/

/-- What a flush asks for tells of no entry. -/
theorem takesBack?_called (queue : AckQueue) (offset : Int) {account : Account}
    (called : ∃ call, account = [.called task call]) :
    account.filterMap (queue.takesBack? offset) = [] := by
  obtain ⟨call, rfl⟩ := called
  rfl

/-- A message that comes back completes its entry. -/
theorem Sound.leadsTo_resumes (sound : queue.Sound) (leads : log.LeadsTo (queue.stateOf? offset))
    {done rest : List Int} {current : Int} {message : Message} {account : Account}
    (returning : queue.flushes.get? task = some (.returning done current rest message))
    (sent : Transmission (queue.changeEntry current AckEntry.markReturned) task
      (done ++ [current]) rest account next) :
    LifeLog.LeadsTo
      (log ++ (Mark.answered task (.value ()) :: account).filterMap (queue.takesBack? offset))
      (next.stateOf? offset) := by
  obtain ⟨_, same⟩ := sent.rest
  obtain ⟨_, _, failed, _⟩ := sound.fits task _ returning
  have states : next.stateOf? offset =
      (queue.changeEntry current AckEntry.markReturned).stateOf? offset := by
    rw [same]
    rfl
  have held : (queue.returning? task).map Prod.fst = some current := by
    simp only [returning?, returning, Option.map_some]
  rw [states, stateOf?_markReturned, List.filterMap_cons, takesBack?, held,
    queue.takesBack?_called offset sent.exists_call]
  by_cases own : current = offset
  · subst own
    rw [if_pos rfl, if_pos rfl, failed]
    rw [failed] at leads
    exact leads.takeBack
  · rw [if_neg (own ∘ Option.some.inj), if_neg (Ne.symm own)]
    rw [List.append_nil]
    exact leads

/-- A step of a flush tells of the entry whose message it has returned. -/
theorem Sound.leadsTo_follows (sound : queue.Sound) (leads : log.LeadsTo (queue.stateOf? offset))
    {step : FlushStep} (follows : step.Follows queue task) :
    LifeLog.LeadsTo (log ++ (Account.ofEffects step.effects).filterMap (queue.takesBack? offset))
      (step.queue.stateOf? offset) := by
  have acted := follows.acted
  have about := follows.about
  have kept : queue.stateOf? offset = some .pending →
      step.queue.stateOf? offset = some .pending := by
    intro pending
    refine (follows.pending offset pending).resolve_right fun ⟨_, _, message, returning⟩ => ?_
    obtain ⟨_, _, failed, _⟩ := sound.fits task _ returning
    exact nomatch failed.symm.trans pending
  generalize step.queue = next at acted kept
  generalize Account.ofEffects step.effects = marks at acted about
  have calm : ∀ {marks : Account}, marks.filterMap (queue.takesBack? offset) = [] →
      next.registered = queue.registered →
      LifeLog.LeadsTo (log ++ marks.filterMap (queue.takesBack? offset))
        (next.stateOf? offset) := by
    intro marks silent same
    rw [silent, List.append_nil, stateOf?_congr same]
    exact leads
  rcases acted with ⟨rfl, rfl⟩ | move
  · exact calm rfl rfl
  · cases move with
    | register message => exact nomatch about _ (List.mem_singleton_self _)
    | resolve other verdict =>
        -- A flush resolves nothing.
        have unresolved : ¬ (offset = other ∧ queue.stateOf? other = some .pending) := by
          rintro ⟨rfl, pending⟩
          have after := kept pending
          rw [stateOf?_resolve, if_pos ⟨rfl, pending⟩] at after
          cases verdict <;> exact nomatch after
        rw [stateOf?_resolve, if_neg unresolved, List.filterMap_nil, List.append_nil]
        exact leads
    | background changed =>
        obtain ⟨_, _, _, _, rfl⟩ := changed.rest
        exact calm rfl rfl
    | requestLock other fresh =>
        obtain ⟨_, _, same⟩ := requestLock_rest fresh
        exact calm rfl (by rw [same]; rfl)
    | startRound other granted some sent =>
        obtain ⟨_, rfl⟩ := sent.rest
        exact calm (queue.takesBack?_called offset sent.exists_call) rfl
    | returned other done current rest message returning sent =>
        exact sound.leadsTo_resumes leads returning sent
    | cut other done current rest message fault returning nonempty => exact calm rfl rfl
    | accepted other ready acking =>
        have idle : queue.takesBack? offset (.answered other (.value ())) = none := by
          simp only [takesBack?, returning?, acking]
          rfl
        obtain ⟨_, _, same⟩ := (queue.settle ready.length (ready.getLastD 0)).endRound_rest other
        refine calm (List.filterMap_cons_none idle) ?_
        rw [same]
        exact queue.registered_settle ready.length (ready.getLastD 0)
    | broken other answer awaits unaccepted =>
        have refused : queue.takesBack? offset (.answered other answer) = none := by
          cases answer with
          | value result => exact absurd rfl unaccepted
          | failed | panicked => rfl
        obtain ⟨_, _, same⟩ := queue.closeFlush_rest other
        exact calm (List.filterMap_cons_none refused) (by rw [same]; rfl)
    | leave other =>
        obtain ⟨_, _, same⟩ := queue.closeFlush_rest other
        exact calm rfl (by rw [same]; rfl)

end AckQueue

end PullConsumer
