import PullConsumer.Proofs.Client.Completeness
import PullConsumer.Proofs.Client.Pulls
import PullConsumer.Proofs.Queue.Counts

/-! # What a client counts

A ledger keeps the increments that the recorder accepted. What an event has to count is read off the
event and the state before it (`World.owed`), and a step enters that into the ledger and nothing
else (`World.ledger_step`).
-/

namespace PullConsumer

/-- The increments that were accepted, the latest first, and whether further ones will be. -/
structure Ledger where
  works : Bool
  increments : List Increment

/-- Enters increments in order; a broken recorder takes none. -/
def Ledger.enter (ledger : Ledger) (increments : List Increment) : Ledger :=
  if ledger.works then { ledger with increments := increments.reverse ++ ledger.increments }
  else ledger

@[simp] theorem Ledger.enter_nil (ledger : Ledger) : ledger.enter [] = ledger := by
  unfold enter
  split <;> rfl

theorem Ledger.enter_append (ledger : Ledger) (first second : List Increment) :
    ledger.enter (first ++ second) = (ledger.enter first).enter second := by
  obtain ⟨works, increments⟩ := ledger
  cases works with
  | true => simp only [enter, if_true, List.reverse_append, List.append_assoc]
  | false => rfl

namespace World

/-- The increments of a client so far. -/
def ledger (world : World) : Ledger :=
  ⟨world.recorderWorks, Increment.ofEffects world.history⟩

variable (world : World) (task : TaskId)

/-! ### Writing into the account -/

/-- An increment is entered if the recorder works. -/
theorem ledger_count (metric : Metric) (labels : Labels) (amount : Nat) :
    (world.count metric labels amount).ledger = world.ledger.enter [⟨metric, labels, amount⟩] := by
  unfold count Ledger.enter
  cases works : world.recorderWorks with
  | true | false =>
      simp only [ledger, works, Bool.false_eq_true, if_true, if_false]
      exact congrArg (Ledger.mk · _) works

theorem ledger_wake : (world.wake task).ledger = world.ledger := by
  rw [wake_eq]
  rfl

/-- An effect is entered as the increment that it is, if it is one. -/
theorem ledger_emit (effect : Effect) :
    (world.emit effect).ledger = world.ledger.enter effect.increment?.toList := by
  cases effect with
  | counted metric labels amount => exact world.ledger_count metric labels amount
  | woken other => exact (world.ledger_wake other).trans (Ledger.enter_nil _).symm
  | notice | recorderFailed | called | answered | responded | hooked =>
      exact (Ledger.enter_nil world.ledger).symm

theorem ledger_spawn (own : Task) : (world.spawn own).1.ledger = world.ledger :=
  ledger_wake _ _

theorem ledger_finish (result : TaskResult) :
    (world.finish task result).ledger = world.ledger := by
  unfold finish
  split
  · exact ledger_wake _ _
  · rfl

/-- Changes enter the increments among their effects. -/
theorem ledger_after {changes : List Change}
    (keeps : ∀ change ∈ changes, ∀ works, change ≠ .setRecorder works) :
    (world.after changes).ledger =
      world.ledger.enter (Increment.ofEffects (Change.effectsOf changes)) := by
  induction changes generalizing world with
  | nil => exact (Ledger.enter_nil world.ledger).symm
  | cons change rest ih =>
      have first : (world.apply change).ledger =
          world.ledger.enter (Increment.ofEffects change.effect?.toList) := by
        cases change with
        | effect effect =>
            rw [apply, ledger_emit]
            simp [Change.effect?]
        | spawn own => exact (world.ledger_spawn own).trans (Ledger.enter_nil _).symm
        | finish task result =>
            exact (world.ledger_finish task result).trans (Ledger.enter_nil _).symm
        | setRecorder works => exact absurd rfl (keeps _ List.mem_cons_self works)
        | setQueue | setEntry | setTask | makeQueue | makeEntry | collect | dismiss | setRegistry
        | setLive | pass => exact (Ledger.enter_nil world.ledger).symm
      rw [after_cons, effectsOf_cons, Increment.ofEffects_append, Ledger.enter_append, ← first]
      exact ih _ fun other member => keeps other (List.mem_cons_of_mem change member)

/-! ### What is counted for pulls -/

/-- The messages of an answer that count as pulled: all of them or none. -/
def takes (entry : PullEntry) (response : PullResponse) : List Message :=
  if response.code = .brokerReject ∨ response.code = .acquireLockFailed ∨ entry.queue = none then []
  else response.messages

/-- The increment for an answer; without messages there is none. -/
def received? (entry : PullEntry) (request : PullRequest) (response : PullResponse) :
    Option Increment :=
  if takes entry response = [] then none
  else some ⟨.pullMessage,
    ⟨request.consume.subject, request.consume.group, some request.brokerGroup.name⟩,
    (takes entry response).length⟩

/-- The answer to a pull counts the messages that it hands over. -/
theorem Handling.increments {world : World} {entry : PullEntry} {request : PullRequest}
    {response : PullResponse} {hook : Option HookId} {changes : List Change}
    {deliveries : List Delivery}
    (handling : Handling world entry request response hook changes deliveries) :
    Increment.ofEffects (Change.effectsOf changes) = (received? entry request response).toList := by
  cases handling with
  | rejected rejects => simp [received?, takes, rejects, Change.effect?]
  | unlocked failed => simp [received?, takes, failed, Change.effect?, Effect.increment?]
  | empty accepted locked nothing => simp [received?, takes, nothing]
  | dropped accepted locked something unserved =>
      simp [received?, takes, unserved, Change.effect?, Effect.increment?]
  | missing accepted locked something serves | delivered accepted locked something serves =>
      simp [received?, takes, accepted, locked, something, serves, Change.effect?,
        Effect.increment?]

/-! ### All events -/

/-- The entry and the request of the pull that a task waits for, and its deadline. -/
def awaitedPull? (world : World) (task : TaskId) : Option (PullEntry × PullRequest × Nat) :=
  match world.tasks.get? task with
  | some (.pull name _ _ _ (some (request, deadline))) =>
    (world.entries.get? name).map (·, request, deadline)
  | _ => none

/-- The answer to a pull that an event interprets, with the entry and the request. -/
def handled? (world : World) : Event → Option (PullEntry × PullRequest × PullResponse)
  | .handle name request response _ => (world.entries.get? name).map (·, request, response)
  | .respond task (.value response) =>
    (world.awaitedPull? task).map fun (entry, request, _) => (entry, request, response)
  | _ => none

/-- The entry for which an event notes a failed pull. -/
def failing? (world : World) : Event → Option PullEntry
  | .markFailed name _ => world.entries.get? name
  | .respond task (.failed _) => (world.awaitedPull? task).map Prod.fst
  | .expire task =>
    ((world.awaitedPull? task).filter fun (_, _, deadline) => deadline ≤ world.clock).map Prod.fst
  | _ => none

/-- The increment for the messages that an event takes in from a broker. -/
def receivedIn (world : World) (event : Event) : Option Increment :=
  (world.handled? event).bind fun (entry, request, response) => received? entry request response

/-- The increment for a failed pull. -/
def failedIn (world : World) (event : Event) : Option Increment :=
  (world.failing? event).map fun entry => ⟨.pullFail, labelsOf entry, 1⟩

/-- The increment for an answer that reaches a flush. -/
def answeredIn (world : World) : Event → Option Increment
  | .answer task answer =>
    ((world.flushOf? task).bind fun name => world.queues.get? name).bind fun queue =>
      (queue.counted? task answer).map (⟨·, queue.labels, 1⟩)
  | _ => none

/-- The increments for the pull that an event begins. -/
def requestedIn (world : World) (event : Event) : List Increment :=
  match event with
  | .proceed task _ =>
    match world.tasks.get? task with
    | some (.pull name _ _ _ none) => (world.entries.get? name).toList.flatMap fun entry =>
        (world.pullsIn name event).map fun _ => ⟨.pullWork, labelsOf entry, 1⟩
    | _ => []
  | _ => []

/-- What an event has to count. -/
def owed (world : World) (event : Event) : List Increment :=
  (world.receivedIn event).toList ++ (world.failedIn event).toList ++
    (world.answeredIn event).toList ++ world.requestedIn event

/-- An event that neither answers a flush nor begins a pull counts what it tells of pulls. -/
theorem owed_of_reported {event : Event} (unanswered : world.answeredIn event = none)
    (unrequested : world.requestedIn event = []) :
    world.owed event = (world.receivedIn event).toList ++ (world.failedIn event).toList := by
  rw [owed, unanswered, unrequested, Option.toList_none, List.append_nil, List.append_nil]

/-- An event has a pull to count only where it begins a cycle. -/
theorem requestedIn_cases (event : Event) : world.requestedIn event = [] ∨
    ∃ task draw target size timeout hook, event = .proceed task draw ∧
      world.tasks.get? task = some (.pull target size timeout hook none) := by
  unfold requestedIn
  split
  · rename_i task draw
    split
    · rename_i target size timeout hook own
      exact .inr ⟨task, draw, target, size, timeout, hook, rfl, own⟩
    · exact .inl rfl
  · exact .inl rfl

/-- A flush counts nothing but the answers that it gets. -/
theorem increments_adopting (task : TaskId) (name : QueueId) (final : Bool) (step : FlushStep) :
    Increment.ofEffects (Change.effectsOf (adopting task name final step)) =
      Increment.ofEffects step.effects := by
  cases ended : step.ended <;> simp [ended]

variable {world : World} {event : Event} {changes : List Change}

/-- The requests of an event are those among the effects of its transition. -/
theorem Transition.pullsIn (transition : Transition world event changes) (name : EntryId) :
    world.pullsIn name event =
      (Account.ofEffects (Change.effectsOf changes)).filterMap (world.requestBy? name) := by
  rw [World.pullsIn, transition.tells.ofEffects_since]

/-- What a transition counts is what its event has to count. -/
theorem Transition.increments (transition : Transition world event changes)  :
    Increment.ofEffects (Change.effectsOf changes) = world.owed event := by
  have requests := transition.pullsIn
  cases transition with
  | handles present handling =>
      rw [world.owed_of_reported rfl rfl, handling.increments]
      simp [receivedIn, failedIn, handled?, failing?, present]
  | fails group present =>
      rw [world.owed_of_reported rfl rfl]
      simp [receivedIn, failedIn, handled?, failing?, present, Effect.increment?]
  | responds own present handling =>
      rw [world.owed_of_reported rfl rfl]
      simp [receivedIn, failedIn, handled?, failing?, present, awaitedPull?, own, Change.effect?,
        Effect.increment?, handling.increments]
  | respondsFailed fault own present | respondsPanicked text own present =>
      rw [world.owed_of_reported rfl rfl]
      simp [receivedIn, failedIn, handled?, failing?, present, awaitedPull?, own, Change.effect?,
        Effect.increment?]
  | overruns own present late =>
      rw [world.owed_of_reported rfl rfl]
      simp [receivedIn, failedIn, handled?, failing?, present, awaitedPull?, own, Change.effect?,
        Effect.increment?, Option.filter, late]
  | answersFlush answer there runs here =>
      rw [increments_adopting, AckQueue.increments_answerFlush]
      simp [owed, receivedIn, failedIn, handled?, failing?, requestedIn, answeredIn, flushOf?,
        there, runs, here]
  | pulls draw own present | refuses draw own present | lapses draw own present
  | skips draw own present =>
      simp [owed, receivedIn, failedIn, handled?, failing?, answeredIn, requestedIn, own, present,
        requests, requestBy?, Task.pullOf?, Call.request?, Mark.ofEffect?, Change.effect?,
        Effect.increment?]
  | @flushes task own name queue draw there runs here =>
      rw [increments_adopting, AckQueue.increments_proceedFlush]
      cases own with
      | scheduledFlush | drain =>
          simp [owed, receivedIn, failedIn, handled?, failing?, answeredIn, requestedIn, there]
      | schedule | pull | handBack | refresh => cases runs
  | concludes draw own =>
      simp [owed, receivedIn, failedIn, handled?, failing?, requestedIn, answeredIn, own,
        Change.effect?, Effect.increment?, apply_ite Increment.ofEffects]
  | relinquishes draw own present idle =>
      rcases idle with ⟨_, _, rfl⟩ | ⟨_, _, rfl⟩ <;>
        simp [owed, receivedIn, failedIn, handled?, failing?, requestedIn, answeredIn, own,
          Change.effect?]
  | answersRelease answer own | answersRefresh answer own =>
      simp [owed, receivedIn, failedIn, handled?, failing?, requestedIn, answeredIn, flushOf?, own,
        Task.flushOf?, Change.effect?, Effect.increment?]
  | elapses own | retries own | timesOut own =>
      simp [owed, receivedIn, failedIn, handled?, failing?, requestedIn, answeredIn, awaitedPull?,
        own, Change.effect?, Effect.increment?]
  | entersWait draw own | hears draw own | notes draw own | closesTwice draw own | closes draw own
  | drains draw own | handsBack draw own | refreshes draw own =>
      simp [owed, receivedIn, failedIn, handled?, failing?, requestedIn, answeredIn, own,
        Change.effect?, Effect.increment?]
  | _ =>
      simp [owed, receivedIn, failedIn, handled?, failing?, requestedIn, answeredIn, Change.effect?,
        Effect.increment?]

/-- An awaited pull is that of a pull cycle, for an entry that exists. -/
theorem awaitedPull?_eq_some {task : TaskId} {pull : PullEntry × PullRequest × Nat}
    (waits : world.awaitedPull? task = some pull) : ∃ name size timeout hook,
      world.tasks.get? task = some (.pull name size timeout hook (some pull.2)) ∧
      world.entries.get? name = some pull.1 := by
  unfold awaitedPull? at waits
  split at waits
  · rename_i name size timeout hook request deadline own
    obtain ⟨entry, present, rfl⟩ := Option.map_eq_some_iff.mp waits
    exact ⟨name, size, timeout, hook, own, present⟩
  · exact nomatch waits

/-- An event that changes nothing has nothing to count. -/
theorem owed_of_blocked (blocked : ∀ changes, ¬ Transition world event changes) :
    world.owed event = [] := by
  have same : (world.step event).1 = world :=
    (world.decided event).resolve_left fun moves => moves.elim blocked
  cases event with
  | handle name request response hook =>
      cases present : world.entries.get? name with
      | none =>
          simp [owed, receivedIn, failedIn, handled?, failing?, answeredIn, requestedIn, present]
      | some entry =>
          obtain ⟨changes, _, handling⟩ := exists_handling world entry request response hook
          exact absurd (.handles present handling) (blocked changes)
  | markFailed name group =>
      cases present : world.entries.get? name with
      | none =>
          simp [owed, receivedIn, failedIn, handled?, failing?, answeredIn, requestedIn, present]
      | some entry => exact absurd (.fails group present) (blocked _)
  | respond task answer =>
      cases waits : world.awaitedPull? task with
      | none =>
          cases answer <;> simp [owed, receivedIn, failedIn, handled?, failing?, answeredIn,
            requestedIn, waits]
      | some pull =>
          obtain ⟨name, size, timeout, hook, own, present⟩ := awaitedPull?_eq_some waits
          cases answer with
          | value response =>
              obtain ⟨changes, _, handling⟩ := exists_handling world pull.1 pull.2.1 response hook
              exact absurd (.responds own present handling) (blocked _)
          | failed fault => exact absurd (.respondsFailed fault own present) (blocked _)
          | panicked text => exact absurd (.respondsPanicked text own present) (blocked _)
  | expire task =>
      cases waits : (world.awaitedPull? task).filter fun pull => pull.2.2 ≤ world.clock with
      | none => simp [owed, receivedIn, failedIn, handled?, failing?, answeredIn,
          requestedIn, waits]
      | some pull =>
          obtain ⟨waits, late⟩ := Option.filter_eq_some_iff.mp waits
          obtain ⟨name, size, timeout, hook, own, present⟩ := awaitedPull?_eq_some waits
          exact absurd (.overruns own present (of_decide_eq_true late)) (blocked _)
  | answer task answer =>
      cases there : world.tasks.get? task with
      | none =>
          simp [owed, receivedIn, failedIn, handled?, failing?, answeredIn, requestedIn, flushOf?,
            there]
      | some own =>
          cases runs : own.flushOf? with
          | none =>
              simp [owed, receivedIn, failedIn, handled?, failing?, answeredIn, requestedIn,
                flushOf?, there, runs]
          | some name =>
              cases here : world.queues.get? name with
              | none =>
                  simp [owed, receivedIn, failedIn, handled?, failing?, answeredIn, requestedIn,
                    flushOf?, there, runs, here]
              | some queue => exact absurd (.answersFlush answer there runs here) (blocked _)
  | proceed task draw =>
      have silent : ∀ name, world.pullsIn name (.proceed task draw) = [] := by
        intro name
        rw [pullsIn, (Tells.of_eq (congrArg history same)).ofEffects_since, List.filterMap_nil]
      have unasked : world.requestedIn (.proceed task draw) = [] := by
        simp only [requestedIn, silent, List.map_nil]
        split <;> simp
      simp [owed, receivedIn, failedIn, handled?, failing?, answeredIn, unasked]
  | _ => rfl

/-- **What is counted.** A step enters what the event has to count into the ledger, and nothing
else. -/
theorem ledger_step (world : World) (event : Event) (keeps : ∀ works, event ≠ .setRecorder works) :
    (world.step event).1.ledger = world.ledger.enter (world.owed event) := by
  by_cases moves : ∃ changes, Transition world event changes
  · obtain ⟨changes, transition⟩ := moves
    rw [transition.step, ledger_after _ (transition.keepsRecorder keeps), transition.increments]
  · have blocked := not_exists.mp moves
    rw [owed_of_blocked blocked, Ledger.enter_nil,
      (world.decided event).resolve_left fun moves => moves.elim blocked]

/-- The pull that a cycle of an entry makes as it begins, if it makes one, with the entry. -/
structure BeginsPull (world : World) (task : TaskId) (draw : Nat) (target : EntryId)
    (begun : Option (PullEntry × PullRequest)) : Prop where
  present : ∀ entry request, begun = some (entry, request) →
    world.entries.get? target = some entry
  requests : ∀ name, world.pullsIn name (.proceed task draw) =
    if target = name then (begun.map Prod.snd).toList else []
  counted : world.requestedIn (.proceed task draw) =
    (begun.map fun begun => ⟨.pullWork, labelsOf begun.1, 1⟩).toList

/-- A cycle makes one pull at most as it begins, for its entry, and has that pull to count. -/
theorem step_beginPull (world : World) {size timeout : Nat} {target : EntryId}
    {hook : Option HookId}
    (own : world.tasks.get? task = some (.pull target size timeout hook none)) (draw : Nat) :
    ∃ begun, BeginsPull world task draw target begun := by
  have counted : world.requestedIn (.proceed task draw) =
      (world.entries.get? target).toList.flatMap fun entry =>
        (world.pullsIn target (.proceed task draw)).map fun _ =>
          ⟨.pullWork, labelsOf entry, 1⟩ := by
    simp only [requestedIn, own]
  have idle : (∀ name, world.pullsIn name (.proceed task draw) = []) →
      ∃ begun, BeginsPull world task draw target begun := by
    intro silent
    refine ⟨none, ⟨fun _ _ same => absurd same.symm (Option.some_ne_none _), fun name => ?_, ?_⟩⟩
    · exact (silent name).trans (ite_self _).symm
    · simp [counted, silent]
  rcases world.decided (.proceed task draw) with ⟨changes, transition⟩ | same
  · have requests := transition.pullsIn
    cases transition with
    | pulls _ there present =>
        cases own.symm.trans there
        rename_i entry _ _ request _ _ _ _ _ _
        have asked : ∀ name, world.pullsIn name (.proceed task draw) =
            if target = name then [request] else [] := by
          intro name
          by_cases same : target = name <;>
            simp [requests, requestBy?, there, Task.pullOf?, Call.request?, Mark.ofEffect?,
              Change.effect?, same]
        refine ⟨some (entry, request), ?_, asked, ?_⟩
        · rintro _ _ ⟨⟩
          exact present
        · rw [counted, present, asked target, if_pos rfl]
          rfl
    | refuses | lapses | skips =>
        exact idle fun name => (requests name).trans (by simp [Mark.ofEffect?, Change.effect?])
    | entersWait _ there | hears _ there | notes _ there | closesTwice _ there | closes _ there
    | drains _ there | relinquishes _ there | handsBack _ there | concludes _ there
    | refreshes _ there => cases own.symm.trans there
    | flushes _ there runs =>
        cases own.symm.trans there
        cases runs
  · refine idle fun name => ?_
    rw [pullsIn, (Tells.of_eq (congrArg history same)).ofEffects_since, List.filterMap_nil]

/-- An event has one thing to count at most. -/
theorem owed_eq_toList (world : World) (event : Event) :
    ∃ increment : Option Increment, world.owed event = increment.toList := by
  cases event with
  | proceed task draw =>
      have requested : world.owed (.proceed task draw) =
          world.requestedIn (.proceed task draw) := rfl
      rw [requested]
      obtain uncounted | ⟨_, _, _, _, _, _, ⟨⟩, own⟩ :=
        world.requestedIn_cases (.proceed task draw)
      · exact ⟨none, uncounted⟩
      · obtain ⟨_, _, _, counted⟩ := world.step_beginPull task own draw
        exact ⟨_, counted⟩
  | answer task answer => exact ⟨world.answeredIn (.answer task answer), List.append_nil _⟩
  | handle name request response hook =>
      refine ⟨world.receivedIn (.handle name request response hook), ?_⟩
      rw [world.owed_of_reported rfl rfl]
      exact List.append_nil _
  | respond task answer =>
      rw [world.owed_of_reported rfl rfl]
      cases answer with
      | value response => exact ⟨_, List.append_nil _⟩
      | failed fault => exact ⟨_, rfl⟩
      | panicked text => exact ⟨none, rfl⟩
  | markFailed | expire =>
      rw [world.owed_of_reported rfl rfl]
      exact ⟨_, rfl⟩
  | _ => exact ⟨none, rfl⟩

end World

end PullConsumer
