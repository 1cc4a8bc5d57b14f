import PullConsumer.Proofs.Client.FlushTasks
import PullConsumer.Proofs.Queue.Exchanges

/-! # One transmission at a time

Any number of flushes may work on one queue, and each may be cut off anywhere. At most one of the
calls that they make is under way at any time, and what an accepted acknowledgment removes from the
queue is what the flush read at the front of it under the lock (`World.run_serialized`).
-/

namespace PullConsumer.World

variable {world : World} {name : QueueId} {queue next : AckQueue} {task : TaskId}
  {event : Event} {told account : Account} {latest : List Exchange}

/-- The calls of a queue that are under way: they have no answer yet, and the flush that waits for
it was not cut off. -/
def underWay (name : QueueId) (world : World) (events : List Event) : List Exchange :=
  (World.account name world events).exchanges.filter fun exchange =>
    exchange.answer.isNone && (world.run events).flushOf? exchange.task == some name

/-- What the flush of a task reads at the front of its queue when it goes on under the lock. -/
def readsIn (world : World) (name : QueueId) (task : TaskId) : Event → Option (List Int)
  | .proceed other _ =>
    match world.queues.get? name with
    | some queue =>
      if other = task ∧ queue.flushes.get? task = some .granted then some queue.readyOffsets
      else none
    | none => none
  | _ => none

/-- What the flush of a task has read last. -/
def batch (name : QueueId) (task : TaskId) : World → List Event → Option (List Int)
  | _, [] => none
  | world, event :: rest =>
    (batch name task (world.step event).1 rest).or (world.readsIn name task event)

/-! ### Calls under way -/

/-- Whether a call is not under way any more: it was answered, or its task has ended. -/
inductive Over (world : World) (exchange : Exchange) : Prop
  | answered (answered : exchange.answer ≠ none)
  | ended (used : exchange.task < world.nextTask) (ended : world.tasks.get? exchange.task = none)

/-- Whether a flush of a queue waits for the answer to a call. -/
def Waits (world : World) (name : QueueId) (exchange : Exchange) : Prop :=
  ∃ queue phase, world.queues.get? name = some queue ∧
    queue.flushes.get? exchange.task = some phase ∧ queue.callOf? phase = some exchange.call

/-- Only the latest call may be under way, and then a flush waits for its answer. -/
inductive Serial (world : World) (name : QueueId) : List Exchange → Prop
  | idle : Serial world name []
  | calling {newest : Exchange} {earlier : List Exchange}
      (state : world.Over newest ∨ world.Waits name newest)
      (past : ∀ exchange ∈ earlier, world.Over exchange) : Serial world name (newest :: earlier)

/-- An exchange that is over stays over. -/
theorem Over.step {exchange : Exchange} (past : world.Over exchange) (proper : world.Proper)
    (event : Event) : (world.step event).1.Over exchange := by
  cases past with
  | answered answered => exact .answered answered
  | ended used ended =>
      obtain ⟨used, ended⟩ := proper.ended_run used ended [event]
      exact .ended used ended

/-- A flush that waits goes on to do so unless it is told of or ends. -/
theorem Waits.step {exchange : Exchange} (waits : world.Waits name exchange) (proper : world.Proper)
    (here : world.queues.get? name = some queue)
    (there : (world.step event).1.queues.get? name = some next)
    (step : QueueStep world name queue event (world.step event).1 told next)
    (omits : told.Omits exchange.task) :
    (world.step event).1.Over exchange ∨ (world.step event).1.Waits name exchange := by
  obtain ⟨other, phase, found, runs, calls⟩ := waits
  cases here.symm.trans found
  have sound := (proper.tidy name).sound queue here
  have holds := phase.holdsLock_of_isSending (AckQueue.isSending_of_callOf? calls)
  have owns := (proper.tidy name).owns here runs
  rcases step.beside sound.turns omits runs holds with gone | ⟨same, _⟩
  · rcases proper.flushOf?_step owns event with left | ⟨used, ended⟩
    · have left := (((proper.step event).tidy name).runs there _).mp left
      rw [gone] at left
      exact nomatch left
    · exact .inl (.ended used ended)
  · obtain ⟨after, found, stride⟩ := proper.stride event here
    cases there.symm.trans found
    refine .inr ⟨next, phase, there, same, ?_⟩
    rw [AckQueue.callOf?_congr stride.assignment]
    exact calls

/-- What a step of a queue tells follows on the latest exchange of its account. -/
theorem QueueStep.exchange {after : World} (step : QueueStep world name queue event after told next)
    (awaited : queue.Awaited account) : queue.ExchangeStep account.latest told := by
  cases step with
  | flushes actor acts follows =>
      rcases follows.acted with ⟨_, silent⟩ | move
      · rw [silent]
        exact .nothing
      · refine move.exchange (fun mark member => ?_) awaited
        rw [follows.about mark member]
        exact Option.some_ne_none actor
  | _ => exact .nothing

/-- A flush that has just got the lock finds no call under way. -/
theorem Serial.over_of_granted (serial : world.Serial name latest) (proper : world.Proper)
    (here : world.queues.get? name = some queue)
    (granted : queue.flushes.get? task = some .granted) :
    ∀ exchange ∈ latest, world.Over exchange := by
  cases serial with
  | idle => exact fun _ => nofun
  | calling state past =>
      intro exchange member
      rcases List.mem_cons.mp member with rfl | before
      · refine state.resolve_right fun ⟨other, phase, found, runs, calls⟩ => ?_
        cases here.symm.trans found
        have sending := AckQueue.isSending_of_callOf? calls
        have same := ((proper.tidy name).sound queue here).turns.unique granted rfl runs
          (phase.holdsLock_of_isSending sending)
        rw [← same, granted] at runs
        cases runs
        exact Bool.false_ne_true sending
      · exact past exchange before

/-- A call that is made in a step waits for its answer after the step. -/
theorem Proper.called_waits (proper : world.Proper) (here : world.queues.get? name = some queue)
    {call : Call} (called : Mark.called task call ∈ world.lines name event) :
    (world.step event).1.Waits name ⟨task, call, none⟩ := by
  obtain ⟨next, there, stride⟩ := proper.stride event here
  obtain ⟨phase, runs, calls⟩ := stride.calls called
  exact ⟨next, phase, there, runs, calls⟩

/-- Every event keeps the calls of a queue apart. -/
theorem Serial.step (serial : world.Serial name account.latest) (proper : world.Proper)
    (here : world.queues.get? name = some queue) (recorded : queue.Recorded account)
    (event : Event) :
    (world.step event).1.Serial name (account ++ world.lines name event).latest := by
  obtain ⟨told, next, there, lines, step⟩ := proper.queueStep event here
  have exchange := step.exchange recorded.awaited
  have waits : ∀ task call, Mark.called task call ∈ told →
      (world.step event).1.Waits name ⟨task, call, none⟩ := fun task call member =>
    proper.called_waits here (lines ▸ List.mem_append_right _ member)
  have offered : Account.latest (account ++ world.offers name (world.handed name event)) =
      account.latest :=
    account.latest_append_offered fun mark member => offered_of_mem_offers member
  rw [lines, ← List.append_assoc, Account.latest_append, offered]
  have later : ∀ {exchanges : List Exchange}, (∀ exchange ∈ exchanges, world.Over exchange) →
      ∀ exchange ∈ exchanges, (world.step event).1.Over exchange :=
    fun past exchange member => (past exchange member).step proper event
  generalize account.latest = latest at serial exchange ⊢
  -- What is said concerns the latest call, and all calls before it are over for good.
  cases exchange with
  | nothing =>
      cases serial with
      | idle => exact .idle
      | calling state past =>
          refine .calling ?_ (later past)
          rcases state with ended | waiting
          · exact .inl (ended.step proper event)
          · exact waiting.step proper here there step fun _ => nofun
  | calls call granted =>
      exact .calling (.inr (waits _ call (List.mem_singleton_self _)))
        (later (serial.over_of_granted proper here granted))
  | @answered task call earlier answer following same =>
      subst same
      cases serial with
      | calling _ past =>
          have closed : ∀ exchange ∈ ⟨task, call, some answer⟩ :: earlier,
              (world.step event).1.Over exchange := by
            intro exchange member
            rcases List.mem_cons.mp member with rfl | before
            · exact .answered (Option.some_ne_none answer)
            · exact later past exchange before
          have answers : Exchange.note (⟨task, call, none⟩ :: earlier) (.answered task answer) =
              ⟨task, call, some answer⟩ :: earlier := by
            simp only [Exchange.note, Exchange.close, if_true]
          rw [List.foldl_cons, answers]
          cases following with
          | none => exact .calling (.inl (closed _ List.mem_cons_self)) (later past)
          | some call =>
              refine .calling (.inr (waits task call ?_)) closed
              exact List.mem_cons_of_mem _ (List.mem_singleton_self _)

/-- Of the calls of a queue one is under way at most. -/
theorem Serial.length_le_one (serial : world.Serial name latest) :
    (latest.filter fun exchange => exchange.answer.isNone &&
      world.flushOf? exchange.task == some name).length ≤ 1 := by
  cases serial with
  | idle => exact Nat.zero_le 1
  | @calling newest earlier state past =>
      have none : (earlier.filter fun exchange => exchange.answer.isNone &&
          world.flushOf? exchange.task == some name) = [] := by
        refine List.filter_eq_nil_iff.mpr fun exchange member => ?_
        cases past exchange member with
        | answered answered => simp [answered]
        | ended used ended => simp [flushOf?, ended]
      rw [List.filter_cons, none]
      split
      · exact Nat.le_refl 1
      · exact Nat.zero_le 1

/-! ### What was read -/

/-- A flush that waits for an answer was there before the event. -/
theorem QueueStep.owned {after : World} {phase : FlushPhase}
    (step : QueueStep world name queue event after told next)
    (there : next.flushes.get? task = some phase) (sending : phase.isSending = true) :
    (queue.flushes.get? task).isSome = true := by
  by_cases omits : told.Omits task
  · rw [step.sending_before omits there sending]
    rfl
  · cases step with
    | flushes opener acts follows =>
        have same : opener = task := by
          refine Classical.byContradiction fun different => omits fun mark member about => ?_
          exact different (Option.some.inj ((follows.about mark member).symm.trans about))
        subst same
        refine ((follows.runs opener).mp ?_).1
        rw [there]
        rfl
    | _ => exact absurd (fun _ => nofun) omits

/-- What a flush has in hand after an event it has read in it, or had in hand before. -/
theorem Proper.hand_step (proper : world.Proper) (here : world.queues.get? name = some queue)
    (there : (world.step event).1.queues.get? name = some next) {phase : FlushPhase}
    {hand : List Int} (runs : next.flushes.get? task = some phase)
    (holds : phase.hand? = some hand) :
    world.readsIn name task event = some hand ∨ world.readsIn name task event = none ∧
      ∃ before held, queue.flushes.get? task = some before ∧ before.hand? = some held ∧
        hand <+: held := by
  have sending := FlushPhase.isSending_of_hand? holds
  obtain ⟨told, after, found, _, step⟩ := proper.queueStep event here
  cases there.symm.trans found
  by_cases actor : event.actor? = some task
  · have owns := ((proper.tidy name).runs here task).mpr (step.owned runs sending)
    have acts := proper.acts here owns actor
    clear step
    generalize (world.step event).1 = after at acts there
    cases acts with
    | proceeds draw =>
        rw [(frame_adopt world task name _).1, Table.get?_set, if_pos rfl] at there
        cases there
        simp only [readsIn, here, true_and]
        rcases (queue.proceeds task).hand runs holds with ⟨granted, rfl⟩ | before
        · exact .inl (if_pos granted)
        · refine .inr ⟨if_neg fun granted => ?_, phase, hand, before, holds, List.prefix_rfl⟩
          cases before.symm.trans granted
          exact Bool.false_ne_true sending
    | answers answer =>
        rw [(frame_adopt world task name _).1, Table.get?_set, if_pos rfl] at there
        cases there
        exact .inr ⟨rfl, (queue.answers task answer).hand runs holds⟩
    | unheard | early =>
        cases here.symm.trans there
        exact .inr ⟨rfl, phase, hand, runs, holds, List.prefix_rfl⟩
    | drops _ closed =>
        cases closed.symm.trans there
        exact nomatch (queue.closeFlush_gone task).symm.trans runs
  · refine .inr ⟨?_, phase, hand, step.sending_before (step.omits actor) runs sending, holds,
      List.prefix_rfl⟩
    cases event with
    | proceed other draw =>
        simp only [readsIn, here]
        exact if_neg fun reads => actor (congrArg some reads.1)
    | _ => rfl

/-- A new queue has no flush. -/
theorem Proper.idle_of_made (proper : world.Proper) (absent : world.queues.get? name = none)
    (there : (world.step event).1.queues.get? name = some next) (task : TaskId) :
    next.flushes.get? task = none := by
  obtain ⟨⟨assignment, _, made⟩, _⟩ := proper.made event absent there
  cases made with
  | opened | started => rfl

/-! ### Runs -/

/-- From a state in which the calls of a queue are apart, a run keeps them apart. -/
theorem Proper.serial (proper : world.Proper) (account : Account) (events : List Event)
    (agrees : ∀ queue, world.queues.get? name = some queue → queue.Recorded account)
    (empty : world.queues.get? name = none → account = [])
    (serial : world.Serial name account.latest) :
    (world.run events).Serial name (account ++ World.account name world events).latest := by
  induction events generalizing world account with
  | nil =>
      rw [World.account, List.append_nil]
      exact serial
  | cons event rest ih =>
      obtain ⟨agreed, emptied⟩ := proper.recorded account [event] agrees empty
      rw [World.account, ← List.append_assoc]
      rw [World.account, World.account, List.append_nil] at agreed emptied
      refine ih (proper.step event) _ agreed emptied ?_
      cases here : world.queues.get? name with
      | none =>
          rw [empty here, proper.lines_of_absent event here]
          exact .idle
      | some queue => exact serial.step proper here (agrees queue here) event

/-- Along a run, what a flush has in hand stays the beginning of what it has read last. -/
theorem Proper.hand (proper : world.Proper) (events : List Event) (earlier : Option (List Int))
    (start : ∀ queue phase hand, world.queues.get? name = some queue →
      queue.flushes.get? task = some phase → phase.hand? = some hand →
      ∃ read, earlier = some read ∧ hand <+: read) :
    ∀ queue phase hand, (world.run events).queues.get? name = some queue →
      queue.flushes.get? task = some phase → phase.hand? = some hand →
      ∃ read, (batch name task world events).or earlier = some read ∧ hand <+: read := by
  induction events generalizing world earlier with
  | nil =>
      rw [batch, Option.none_or]
      exact start
  | cons event rest ih =>
      rw [batch, Option.or_assoc]
      refine ih (proper.step event) _ fun next phase hand there runs holds => ?_
      cases here : world.queues.get? name with
      | none => exact nomatch (proper.idle_of_made here there task).symm.trans runs
      | some queue =>
          rcases proper.hand_step here there runs holds with
            reads | ⟨unread, before, held, was, had, front⟩
          · rw [reads]
            exact ⟨hand, rfl, List.prefix_rfl⟩
          · obtain ⟨read, same, begins⟩ := start queue before held here was had
            rw [unread, Option.none_or]
            exact ⟨read, same, front.trans begins⟩

/-- Two entries are being acknowledged, a third one is registered, and another flush waits in
line. -/
def twoFlushes : List Event :=
  let message := fun offset => (default : Message).setKey .pullOffset offset
  [.openQueue (.ofNames "s" "g" "p" "b" "c" .shared), .register 0 (message "1"),
    .register 0 (message "2"), .resolve 0 1 .complete, .resolve 0 2 .complete,
    .begin (.flush 0 100), .proceed 0 0, .proceed 0 0, .proceed 0 0, .register 0 (message "3"),
    .begin (.flush 0 100), .proceed 1 0, .proceed 1 0]

variable (epoch : Nat) (settings : Settings) (events : List Event)

/-- After every run, the calls of a queue are apart. -/
theorem run_serial : ((initial epoch settings).run events).Serial name
    (World.account name (initial epoch settings) events).latest :=
  (proper_initial epoch settings).serial [] events
    (fun queue found => absurd found.symm (Option.some_ne_none queue)) (fun _ => rfl) .idle

/-- After every run, what a flush has in hand is the beginning of what it has read last. -/
theorem run_hand (here : ((initial epoch settings).run events).queues.get? name = some queue)
    {phase : FlushPhase} {hand : List Int} (runs : queue.flushes.get? task = some phase)
    (holds : phase.hand? = some hand) :
    ∃ read, batch name task (initial epoch settings) events = some read ∧ hand <+: read := by
  obtain ⟨read, same, front⟩ := (proper_initial epoch settings).hand events none
    (fun queue _ _ found => absurd found.symm (Option.some_ne_none queue)) queue
      phase hand here runs
    holds
  rw [Option.or_none] at same
  exact ⟨read, same, front⟩

/-- **Transmissions are serialized.** After every run, whatever flushes work on a queue, one of its
calls is under way at most. If it is an acknowledgment and is accepted next, the entries that it
removes are the first of those that its flush has read under the lock, and exactly those that the
request covers. -/
theorem run_serialized :
    (underWay name (initial epoch settings) events).length ≤ 1 ∧
    ∀ task, ((initial epoch settings).run events).flushOf? task = some name →
      ((initial epoch settings).run events).awaited? task = some .ack →
      ∃ group request queue next read count,
        underWay name (initial epoch settings) events = [⟨task, .sendAck group request, none⟩] ∧
        ((initial epoch settings).run events).queues.get? name = some queue ∧
        ((initial epoch settings).run (events ++ [.answer task (.value ())])).queues.get? name =
          some next ∧
        batch name task (initial epoch settings) events = some read ∧
        queue.Removes next request read count := by
  have proper := run_proper epoch settings events
  have single : (underWay name (initial epoch settings) events).length ≤ 1 := by
    rw [underWay, Account.exchanges, List.filter_reverse, List.length_reverse]
    exact (run_serial epoch settings events).length_le_one
  refine ⟨single, fun task owns awaits => ?_⟩
  obtain ⟨queue, here, _⟩ := ((proper.tidy name).flushes task).mp owns
  obtain ⟨ready, acking⟩ := (awaited?_eq_ack_iff here owns).mp awaits
  obtain ⟨read, reads, begins⟩ := run_hand epoch settings events here acking rfl
  have recorded := run_recorded epoch settings events here
  obtain ⟨earlier, latest⟩ := recorded.awaited task _ _ acking rfl
  have member : ⟨task, .sendAck queue.assignment.brokerGroup (queue.ackRequest ready), none⟩ ∈
      underWay name (initial epoch settings) events := by
    refine List.mem_filter.mpr ⟨?_, by simp [owns]⟩
    rw [Account.exchanges, List.mem_reverse, latest]
    exact List.mem_cons_self
  obtain ⟨other, alone⟩ := List.length_eq_one_iff.mp
    (Nat.le_antisymm single (List.length_pos_of_mem member))
  rw [alone, List.mem_singleton] at member
  refine ⟨_, _, queue, _, read, _, member ▸ alone, here, ?_, reads,
    recorded.sound.removes acking begins⟩
  rw [run_append]
  change ((run _ events).step _).1.queues.get? name = _
  rw [(step_of_flushOf? here owns 0 _).2, (frame_adopt _ task name _).1, Table.get?_set, if_pos rfl]

/-- The flush in line has no call under way. -/
theorem run_serialized_twoFlushes :
    underWay 0 (initial 0 .standard) twoFlushes =
        [⟨0, .sendAck "b" (.ofRange (.ofNames "s" "g" "p" "b" "c" .shared) 1 2), none⟩] ∧
      ∃ group request queue next read count,
        underWay 0 (initial 0 .standard) twoFlushes = [⟨0, .sendAck group request, none⟩] ∧
        ((initial 0 .standard).run twoFlushes).queues.get? 0 = some queue ∧
        ((initial 0 .standard).run (twoFlushes ++ [.answer 0 (.value ())])).queues.get? 0 =
          some next ∧
        batch 0 0 (initial 0 .standard) twoFlushes = some read ∧
        queue.Removes next request read count :=
  ⟨rfl, (run_serialized 0 .standard twoFlushes).2 0 rfl rfl⟩

end PullConsumer.World
