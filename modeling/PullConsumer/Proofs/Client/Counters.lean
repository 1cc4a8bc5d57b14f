import Mathlib.Algebra.BigOperators.Group.Finset.Basic
import Mathlib.Algebra.BigOperators.Group.Finset.Piecewise
import Mathlib.Algebra.GroupWithZero.Nat
import PullConsumer.Proofs.Client.FlushTasks
import PullConsumer.Proofs.Client.Ledger

/-! # Counters are exact

Along every run whose recorder never breaks, the counters tell for each subject and group how many
exchanges with the broker came to which end, how many pulls were begun, how many of them failed, and
how many messages were taken in (`World.run_counted`).
-/

namespace PullConsumer

/-- Whether an assignment is one of a subject and a group. -/
def Assignment.isFor (assignment : Assignment) (subject group : String) : Bool :=
  assignment.subject = subject ∧ assignment.group = group

/-- Whether an event is counted for a subject and a group, whichever broker it names. -/
def Labels.isFor (labels : Labels) (subject group : String) : Bool :=
  labels.subject = subject ∧ labels.group = group

/-- The part of an increment that goes into a counter of a subject and a group. -/
def Increment.share (metric : Metric) (subject group : String) (increment : Increment) : Nat :=
  if increment.metric = metric ∧ increment.labels.isFor subject group then increment.amount else 0

/-- What increments add to a counter of a subject and a group. -/
def Increment.sum (metric : Metric) (subject group : String) (increments : List Increment) : Nat :=
  (increments.map (share metric subject group)).sum

namespace Increment

variable {metric : Metric} {subject group : String}

@[simp] theorem sum_nil : sum metric subject group [] = 0 := rfl

@[simp] theorem sum_append (first second : List Increment) :
    sum metric subject group (first ++ second) =
      sum metric subject group first + sum metric subject group second := by
  rw [sum, List.map_append, List.sum_append]
  rfl

@[simp] theorem sum_singleton (increment : Increment) :
    sum metric subject group [increment] = share metric subject group increment := by
  simp [sum]

/-- The order of increments does not matter. -/
theorem sum_reverse (increments : List Increment) :
    sum metric subject group increments.reverse = sum metric subject group increments := by
  simp [sum]

/-- Increments of other counters add nothing. -/
theorem sum_of_other {increments : List Increment}
    (other : ∀ increment ∈ increments, increment.metric ≠ metric) :
    sum metric subject group increments = 0 := by
  refine List.sum_eq_zero fun amount member => ?_
  obtain ⟨increment, inside, rfl⟩ := List.mem_map.mp member
  exact if_neg fun own => other increment inside own.1

end Increment

namespace World

/-- The value of a counter for a subject and a group. -/
def total (world : World) (metric : Metric) (subject group : String) : Nat :=
  Increment.sum metric subject group (Increment.ofEffects world.history)

/-- The queues that were made for a subject and a group. -/
def queuesOf (world : World) (subject group : String) : Finset QueueId :=
  (Finset.range world.nextQueue).filter fun name =>
    (world.queues.get? name).any (·.assignment.isFor subject group)

/-- The entries that were made for a subject and a group. -/
def entriesOf (world : World) (subject group : String) : Finset EntryId :=
  (Finset.range world.nextEntry).filter fun name =>
    (world.entries.get? name).any (·.assignment.isFor subject group)

/-- The steps of a run: each event with the state that it finds. -/
def moments : World → List Event → List (World × Event)
  | _, [] => []
  | world, event :: rest => (world, event) :: moments (world.step event).1 rest

/-- Whether an event notes a failed pull for a subject and a group. -/
def failsFor (subject group : String) (moment : World × Event) : Bool :=
  (moment.1.failing? moment.2).any (·.assignment.isFor subject group)

/-- The number of messages that an event takes in for a subject and a group. -/
def takenFor (subject group : String) (moment : World × Event) : Nat :=
  match moment.1.handled? moment.2 with
  | some (entry, request, response) =>
    if request.consume.subject = subject ∧ request.consume.group = group then
      (takes entry response).length
    else 0
  | none => 0

variable {world : World} {name : QueueId} {queue : AckQueue} {task : TaskId} {event : Event}
  {told : Account} {metric : Metric} {subject group : String}

/-- The exchanges of a queue are counted for the subject and the group of its assignment. -/
theorem isFor_labels (queue : AckQueue) (subject group : String) :
    queue.labels.isFor subject group = queue.assignment.isFor subject group := rfl

/-- The pulls of an entry are counted for the subject and the group of its assignment. -/
theorem isFor_labelsOf (entry : PullEntry) (subject group : String) :
    (labelsOf entry).isFor subject group = entry.assignment.isFor subject group := rfl

theorem moments_append (world : World) (first second : List Event) :
    moments world (first ++ second) = moments world first ++ moments (world.run first) second := by
  induction first generalizing world with
  | nil => rfl
  | cons event rest ih =>
      rw [List.cons_append, moments, moments, ih]
      rfl

/-! ### The counters of one step -/

/-- A step adds to a counter what the event has to count, and the recorder stays as it is. -/
theorem total_step (works : world.recorderWorks = true) (unbroken : event ≠ .setRecorder false)
    (metric : Metric) (subject group : String) :
    (world.step event).1.recorderWorks = true ∧
      (world.step event).1.total metric subject group = world.total metric subject group +
        Increment.sum metric subject group (world.owed event) := by
  by_cases sets : ∃ works, event = .setRecorder works
  · obtain ⟨works, rfl⟩ := sets
    cases works with
    | true => exact ⟨rfl, rfl⟩
    | false => exact absurd rfl unbroken
  · have enters := world.ledger_step event fun works same => sets ⟨works, same⟩
    have accepts : world.ledger.enter (world.owed event) =
        ⟨true, (world.owed event).reverse ++ Increment.ofEffects world.history⟩ := by
      rw [ledger, works]
      rfl
    rw [accepts] at enters
    refine ⟨congrArg Ledger.works enters, ?_⟩
    have entered : Increment.ofEffects (world.step event).1.history =
        (world.owed event).reverse ++ Increment.ofEffects world.history :=
      congrArg Ledger.increments enters
    rw [total, entered, Increment.sum_append, Increment.sum_reverse, Nat.add_comm]
    rfl

/-- Each kind of increment belongs to counters of its own. -/
theorem sum_owed (metric : Metric) : Increment.sum metric subject group (world.owed event) =
    Increment.sum metric subject group (match metric with
      | .pullMessage => (world.receivedIn event).toList
      | .pullFail => (world.failedIn event).toList
      | .pullWork => world.requestedIn event
      | .ackSend | .ackSendFail | .sendBack => (world.answeredIn event).toList) := by
  have received : metric ≠ .pullMessage →
      Increment.sum metric subject group (world.receivedIn event).toList = 0 := by
    refine fun other => Increment.sum_of_other fun increment member same => other ?_
    obtain ⟨⟨entry, request, response⟩, _, counted⟩ :=
      Option.bind_eq_some_iff.mp (Option.mem_toList.mp member)
    simp only [received?] at counted
    split at counted
    · cases counted
    · rw [← same, ← Option.some.inj counted]
  have failed : metric ≠ .pullFail →
      Increment.sum metric subject group (world.failedIn event).toList = 0 := by
    refine fun other => Increment.sum_of_other fun increment member same => other ?_
    obtain ⟨_, _, counted⟩ := Option.map_eq_some_iff.mp (Option.mem_toList.mp member)
    rw [← same, ← counted]
  have requested : metric ≠ .pullWork →
      Increment.sum metric subject group (world.requestedIn event) = 0 := by
    refine fun other => Increment.sum_of_other fun increment member same => other ?_
    unfold requestedIn at member
    split at member
    · split at member
      · obtain ⟨_, _, inside⟩ := List.mem_flatMap.mp member
        obtain ⟨_, _, counted⟩ := List.mem_map.mp inside
        rw [← same, ← counted]
      · exact absurd member List.not_mem_nil
    · exact absurd member List.not_mem_nil
  have answered : metric ∉ [Metric.ackSend, .ackSendFail, .sendBack] →
      Increment.sum metric subject group (world.answeredIn event).toList = 0 := by
    refine fun other => Increment.sum_of_other fun increment member same => other ?_
    unfold answeredIn at member
    split at member
    · obtain ⟨_, _, counted⟩ := Option.bind_eq_some_iff.mp (Option.mem_toList.mp member)
      obtain ⟨_, counts, rfl⟩ := Option.map_eq_some_iff.mp counted
      obtain ⟨_, _, belongs⟩ := Option.bind_eq_some_iff.mp counts
      exact same ▸ Exchange.metric?_mem belongs
    · exact absurd member List.not_mem_nil
  cases metric <;> simp [owed, received, failed, requested, answered]

/-- An event counts as pulled what it takes in. -/
theorem sum_receivedIn :
    Increment.sum .pullMessage subject group (world.receivedIn event).toList =
      takenFor subject group (world, event) := by
  simp only [receivedIn, takenFor]
  cases world.handled? event with
  | none => rfl
  | some handled =>
      obtain ⟨entry, request, response⟩ := handled
      simp only [Option.bind_some, received?]
      split
      · rename_i none
        rw [none]
        exact (ite_self 0).symm
      · simp [Increment.share, Labels.isFor]

/-- An event counts a failed pull for its entry. -/
theorem sum_failedIn : Increment.sum .pullFail subject group (world.failedIn event).toList =
    if failsFor subject group (world, event) then 1 else 0 := by
  cases failing : world.failing? event <;>
    simp [failedIn, failsFor, failing, Increment.share, isFor_labelsOf]

/-! ### The exchanges of one step -/

/-- The counter that an event belongs to as an answer that reaches a flush of a queue. -/
def counted? (world : World) (name : QueueId) : Event → Option Metric
  | .answer task answer =>
    if world.flushOf? task = some name then
      (world.queues.get? name).bind fun queue => queue.counted? task answer
    else none
  | _ => none

/-- An event that is not the work of a flush of a queue leaves no line about its flushes. -/
theorem Proper.lines_of_others (proper : world.Proper)
    (here : world.queues.get? name = some queue)
    (others : ∀ task, event.actor? = some task → world.flushOf? task ≠ some name) :
    world.lines name event = world.offers name (world.handed name event) := by
  obtain ⟨changes, told, next, same, moved⟩ := proper.moved event here
  rw [moved.lines same]
  refine (congrArg (world.offers name (world.handed name event) ++ ·) ?_).trans (List.append_nil _)
  have own := moved.tells
  cases moved.step with
  | flushes task acts follows =>
      refine List.eq_nil_iff_forall_not_mem.mpr fun mark member => others task acts ?_
      have about := follows.about mark member
      rw [← own] at member
      have runs := (List.mem_filter.mp member).2
      rw [about, Option.bind_some, beq_iff_eq] at runs
      exact runs
  | _ => rfl

/-- **Exchanges of a step.** Of the exchanges of a queue, an event brings the one that it answers to
its counter. -/
theorem Proper.tally_lines (proper : world.Proper) (here : world.queues.get? name = some queue)
    (recorded : queue.Recorded told) (event : Event) (metric : Metric) :
    Account.tally (told ++ world.lines name event) metric =
      told.tally metric + if world.counted? name event = some metric then 1 else 0 := by
  have turns := recorded.sound.turns
  by_cases own : ∃ task, event.actor? = some task ∧ world.flushOf? task = some name
  · obtain ⟨task, actor, owns⟩ := own
    have acts := proper.acts here owns actor
    generalize same : (world.step event).1 = after at acts
    have silent : world.lines name event = [] → world.counted? name event = none →
        Account.tally (told ++ world.lines name event) metric = told.tally metric +
          if world.counted? name event = some metric then 1 else 0 := by
      intro lines uncounted
      rw [lines, uncounted, List.append_nil]
      rfl
    cases acts with
    | proceeds draw =>
        obtain ⟨_, lines⟩ :=
          proper.adopts here owns (turns.proceedFlush_follows task) rfl rfl same
        rw [lines, AckQueue.tally_proceedFlush]
        rfl
    | answers answer =>
        obtain ⟨_, lines⟩ :=
          proper.adopts here owns (turns.answerFlush_follows task answer) rfl rfl same
        rw [lines, recorded.tally_answerFlush]
        simp only [counted?, owns, here, if_true, Option.bind_some]
    | unheard answer =>
        exact silent (lines_of_silent (respond_flush owns answer).2
          (.of_eq (congrArg history same))) rfl
    | early undue => exact silent (lines_of_silent rfl (.of_eq (congrArg history same))) rfl
    | drops cuts _ _ tells =>
        rw [← same] at tells
        cases event with
        | expire | abort => exact silent (lines_of_silent rfl tells) rfl
        | _ => exact cuts.elim
  · have others : ∀ task, event.actor? = some task → world.flushOf? task ≠ some name :=
      fun task actor runs => own ⟨task, actor, runs⟩
    have uncounted : world.counted? name event = none := by
      cases event with
      | answer task answer => exact if_neg (others task rfl)
      | _ => rfl
    rw [proper.lines_of_others here others, uncounted,
      told.tally_append_offered fun mark member => offered_of_mem_offers member]
    rfl

/-- An answer belongs to no counter but as one to the flush of its task. -/
theorem counted?_answer {target : QueueId} (owns : world.flushOf? task = some target)
    (answer : Answer Unit) (name : QueueId) : world.counted? name (.answer task answer) =
      if target = name then
        (world.queues.get? target).bind fun queue => queue.counted? task answer
      else none := by
  simp only [counted?, owns, Option.some.injEq]
  by_cases same : target = name
  · subst same
    rfl
  · rw [if_neg same, if_neg same]

/-- Over the queues of a subject and a group, the answered exchanges are those that are counted. -/
theorem sum_answeredIn {queues : Finset QueueId}
    (named : ∀ name queue, world.queues.get? name = some queue →
      (name ∈ queues ↔ queue.assignment.isFor subject group = true))
    (event : Event) (metric : Metric) :
    ∑ name ∈ queues, (if world.counted? name event = some metric then 1 else 0) =
      Increment.sum metric subject group (world.answeredIn event).toList := by
  have silent : (∀ name, world.counted? name event = none) → world.answeredIn event = none →
      ∑ name ∈ queues, (if world.counted? name event = some metric then 1 else 0) =
        Increment.sum metric subject group (world.answeredIn event).toList := by
    intro uncounted unanswered
    rw [unanswered]
    exact Finset.sum_eq_zero fun name _ => if_neg (by rw [uncounted name]; exact nofun)
  cases event with
  | answer task answer =>
      cases owns : world.flushOf? task with
      | none =>
          refine silent (fun name => ?_) ?_
          · simp only [counted?, owns, reduceCtorEq, if_false]
          · simp only [answeredIn, owns, Option.bind_none]
      | some target =>
          have alone := counted?_answer owns answer
          cases here : world.queues.get? target with
          | none =>
              refine silent (fun name => ?_) ?_
              · rw [alone, here, Option.bind_none, ite_self]
              · simp only [answeredIn, owns, here, Option.bind_some, Option.bind_none]
          | some queue =>
              have share : ∀ name ∈ queues, (if world.counted? name (.answer task answer) =
                  some metric then 1 else 0) = if target = name then
                    (if queue.counted? task answer = some metric then 1 else 0) else 0 := by
                intro name _
                rw [alone, here, Option.bind_some]
                by_cases same : target = name
                · rw [if_pos same, if_pos same]
                · rw [if_neg same, if_neg same]
                  rfl
              rw [Finset.sum_congr rfl share, Finset.sum_ite_eq]
              simp only [answeredIn, owns, here, Option.bind_some, named target queue here]
              cases queue.counted? task answer with
              | none => simp
              | some own =>
                  by_cases same : own = metric <;> simp [Increment.share, same, isFor_labels]
  | _ => exact silent (fun _ => rfl) rfl

/-- Over the entries of a subject and a group, the pulls of a step are those that are counted. -/
theorem Proper.sum_requestedIn (proper : world.Proper) {entries : Finset EntryId}
    (named : ∀ name entry, world.entries.get? name = some entry →
      (name ∈ entries ↔ entry.assignment.isFor subject group = true)) (event : Event) :
    ∑ name ∈ entries, (world.pullsIn name event).length =
      Increment.sum .pullWork subject group (world.requestedIn event) := by
  by_cases begins : ∃ task draw target size timeout hook, event = .proceed task draw ∧
      world.tasks.get? task = some (.pull target size timeout hook none)
  · obtain ⟨task, draw, target, size, timeout, hook, rfl, own⟩ := begins
    obtain ⟨begun, present, requests, counted⟩ := world.step_beginPull task own draw
    have share : ∀ name ∈ entries, (world.pullsIn name (.proceed task draw)).length =
        if target = name then (begun.map Prod.snd).toList.length else 0 := by
      intro name _
      rw [requests name, apply_ite List.length]
      rfl
    rw [Finset.sum_congr rfl share, Finset.sum_ite_eq, counted]
    cases begun with
    | none => exact ite_self 0
    | some begun =>
        simp [Increment.share, named target begun.1 (present begun.1 begun.2 rfl), isFor_labelsOf]
  · have unasked : ∀ name, world.pullsIn name event = [] := by
      refine fun name => List.eq_nil_iff_forall_not_mem.mpr fun request member => begins ?_
      obtain ⟨task, draw, size, timeout, hook, same, own⟩ := proper.pulled member
      exact ⟨task, draw, name, size, timeout, hook, same, own⟩
    rw [(world.requestedIn_cases event).resolve_right begins]
    exact Finset.sum_eq_zero fun name _ => congrArg List.length (unasked name)

/-- Nothing is counted for a queue that does not exist. -/
theorem counted?_of_absent (absent : world.queues.get? name = none) (event : Event) :
    world.counted? name event = none := by
  cases event with
  | answer task answer =>
      simp only [counted?, absent, Option.bind_none, ite_self]
  | _ => rfl

/-! ### Runs -/

/-- The counters of a subject and a group tell what happened to queues and entries during a run. -/
structure Counted (start : World) (events : List Event) (queues : Finset QueueId)
    (entries : Finset EntryId) (subject group : String) : Prop where
  /-- Acknowledgments accepted and failed, and messages returned. -/
  exchanges : ∀ metric ∈ [Metric.ackSend, .ackSendFail, .sendBack],
    (start.run events).total metric subject group =
      ∑ name ∈ queues, (account name start events).tally metric
  /-- Pulls that a cycle began. -/
  begun : (start.run events).total .pullWork subject group =
    ∑ name ∈ entries, (pulls name start events).length
  failed : (start.run events).total .pullFail subject group =
    (moments start events).countP (failsFor subject group)
  received : (start.run events).total .pullMessage subject group =
    ((moments start events).map (takenFor subject group)).sum

variable {start : World} {events : List Event} {queues : Finset QueueId} {entries : Finset EntryId}

/-- One more event is counted as it should be. -/
theorem Counted.step (counted : Counted start events queues entries subject group)
    (proper : (start.run events).Proper) (works : (start.run events).recorderWorks = true)
    (unbroken : event ≠ .setRecorder false)
    (recorded : ∀ name queue, (start.run events).queues.get? name = some queue →
      queue.Recorded (account name start events) ∧
        (name ∈ queues ↔ queue.assignment.isFor subject group = true))
    (listed : ∀ name entry, (start.run events).entries.get? name = some entry →
      (name ∈ entries ↔ entry.assignment.isFor subject group = true)) :
    Counted start (events ++ [event]) queues entries subject group := by
  have adds := fun metric => (total_step works unbroken metric subject group).2
  have after : start.run (events ++ [event]) = ((start.run events).step event).1 := by
    rw [run_append]
    rfl
  have moment : moments start (events ++ [event]) =
      moments start events ++ [(start.run events, event)] := moments_append ..
  refine ⟨fun metric pipeline => ?_, ?_, ?_, ?_⟩
  · have lines : ∀ name ∈ queues, (account name start (events ++ [event])).tally metric =
        (account name start events).tally metric +
          if (start.run events).counted? name event = some metric then 1 else 0 := by
      intro name _
      have whole : account name start (events ++ [event]) =
          account name start events ++ (start.run events).lines name event := by
        rw [account_append]
        exact congrArg (account name start events ++ ·) (List.append_nil _)
      rw [whole]
      cases here : (start.run events).queues.get? name with
      | none =>
          rw [proper.lines_of_absent event here, counted?_of_absent here, List.append_nil]
          rfl
      | some queue => exact proper.tally_lines here (recorded name queue here).1 event metric
    have owes : Increment.sum metric subject group ((start.run events).owed event) =
        Increment.sum metric subject group ((start.run events).answeredIn event).toList := by
      rw [sum_owed]
      cases metric <;> first | rfl | exact absurd pipeline (by decide)
    rw [after, adds, owes, counted.exchanges metric pipeline, Finset.sum_congr rfl lines,
      Finset.sum_add_distrib, sum_answeredIn fun name queue here => (recorded name queue here).2]
  · have requests : ∀ name ∈ entries, (pulls name start (events ++ [event])).length =
        (pulls name start events).length + ((start.run events).pullsIn name event).length := by
      intro name _
      rw [pulls_append, List.length_append]
      exact congrArg (_ + ·) (congrArg List.length (List.append_nil _))
    rw [after, adds, sum_owed, counted.begun, Finset.sum_congr rfl requests,
      Finset.sum_add_distrib, proper.sum_requestedIn listed event]
  · rw [after, adds, sum_owed, sum_failedIn, counted.failed, moment, List.countP_append,
      List.countP_singleton]
  · rw [after, adds, sum_owed, sum_receivedIn, counted.received, moment, List.map_append,
      List.sum_append]
    simp

/-- A queue is one of a subject and a group if its assignment is for them. -/
theorem Proper.mem_queuesOf (proper : world.Proper) (here : world.queues.get? name = some queue)
    (later : List Event) :
    name ∈ (world.run later).queuesOf subject group ↔
      queue.assignment.isFor subject group = true := by
  have kept : ∀ {earlier next : AckQueue} {account : Account}, earlier.Stride account next →
      earlier.assignment = queue.assignment → next.assignment = queue.assignment :=
    fun stride same => stride.assignment.trans same
  obtain ⟨next, there, same⟩ := proper.carries kept later here rfl
  rw [queuesOf, Finset.mem_filter, Finset.mem_range, there, Option.any_some, same]
  exact and_iff_right ((proper.run later).numbered.lt_nextQueue there)

/-- Two messages are pulled; one is returned to the broker, and the first acknowledgment of the two
fails. A pull of the entry is noted as failed, and another is cancelled. -/
def retried : List Event :=
  let message := fun offset => (default : Message).setKey .pullOffset offset
  [.openEntry (.ofNames "s" "g" "p" "b" "c" .shared) (.ofNames "s" "g" "c"),
    .begin (.pull 0 10 100 none), .proceed 1 0,
    .respond 1 (.value ⟨.success, ⟨"b", 0⟩, [message "1", message "2"]⟩),
    .resolve 0 1 .complete, .resolve 0 2 (.retry default),
    .begin (.flush 0 100), .proceed 2 0, .proceed 2 0, .proceed 2 0, .answer 2 (.value ()),
    .answer 2 (.failed (.ackSend "down")),
    .begin (.flush 0 100), .proceed 3 0, .proceed 3 0, .proceed 3 0, .answer 3 (.value ()),
    .markFailed 0 ⟨"b", 0⟩, .setGroup ⟨"b", 0⟩ true,
    .begin (.pull 0 10 100 none), .proceed 4 0, .abort 4]

variable (epoch : Nat) (settings : Settings)

/-- An entry is one of a subject and a group if its assignment is for them. -/
theorem mem_entriesOf {name : EntryId} {entry : PullEntry}
    (present : ((initial epoch settings).run events).entries.get? name = some entry)
    (later : List Event) :
    name ∈ ((initial epoch settings).run (events ++ later)).entriesOf subject group ↔
      entry.assignment.isFor subject group = true := by
  obtain ⟨next, there, endures⟩ := run_endures present later
  have handover := (handover_initial epoch settings name).run (proper_initial epoch settings)
    (events ++ later)
  rw [entriesOf, Finset.mem_filter, Finset.mem_range, there, Option.any_some, endures.assignment]
  refine and_iff_right (Nat.lt_of_not_le fun high => ?_)
  exact Option.some_ne_none next (there.symm.trans (handover.unused high))

/-- After every beginning of a run the counters tell what happened so far. -/
theorem counted_beginning (subject group : String) (events later : List Event)
    (unbroken : Event.setRecorder false ∉ events) :
    ((initial epoch settings).run events).recorderWorks = true ∧
      Counted (initial epoch settings) events
        (((initial epoch settings).run (events ++ later)).queuesOf subject group)
        (((initial epoch settings).run (events ++ later)).entriesOf subject group)
        subject group := by
  induction events using List.reverseRecOn generalizing later with
  | nil =>
      refine ⟨rfl, fun metric _ => ?_, ?_, rfl, rfl⟩
      · exact (Finset.sum_eq_zero fun _ _ => rfl).symm
      · exact (Finset.sum_eq_zero fun _ _ => rfl).symm
  | append_singleton events event ih =>
      have earlier : Event.setRecorder false ∉ events :=
        fun member => unbroken (List.mem_append_left _ member)
      have now : event ≠ .setRecorder false := by
        rintro rfl
        exact unbroken (List.mem_append_right _ (List.mem_singleton_self _))
      obtain ⟨works, counted⟩ := ih (event :: later) earlier
      have proper := run_proper epoch settings events
      rw [List.append_assoc, run_append (initial epoch settings) events [event]]
      refine ⟨(total_step works now .ackSend subject group).1, ?_⟩
      refine counted.step proper works now (fun name queue here => ⟨?_, ?_⟩)
        fun name entry present => mem_entriesOf epoch settings present (event :: later)
      · exact run_recorded epoch settings events here
      · rw [run_append]
        exact proper.mem_queuesOf here (event :: later)

/-- **Counters are exact.** If the recorder never breaks, the counters of every subject and group
tell the exchanges of their queues by how they ended, the pulls of their entries, the failed ones
among the pulls, and the messages taken in. A call that got no answer, and one at which the broker
broke down, is in none of them. -/
theorem run_counted (unbroken : Event.setRecorder false ∉ events) (subject group : String) :
    let start := initial epoch settings
    let client := start.run events
    Counted start events (client.queuesOf subject group) (client.entriesOf subject group)
        subject group ∧
      ∀ name, ∀ exchange ∈ (account name start events).exchanges,
        exchange.answer = none ∨ (∃ text, exchange.answer = some (.panicked text)) →
          exchange.metric? = none := by
  have counted := (counted_beginning epoch settings subject group events [] unbroken).2
  rw [List.append_nil] at counted
  refine ⟨counted, fun name exchange _ unanswered => ?_⟩
  obtain ⟨task, call, answer⟩ := exchange
  rcases unanswered with rfl | ⟨text, rfl⟩ <;> cases call <;> rfl

/-- Every counter moves in the run of `retried`, and the cancelled pull is not among the failed
ones. -/
theorem run_counted_retried :
    Event.setRecorder false ∉ retried ∧
      Counted (initial 0 .standard) retried {0} {0} "s" "g" ∧
      [Metric.sendBack, .ackSendFail, .ackSend, .pullWork, .pullFail, .pullMessage].map
          (((initial 0 .standard).run retried).total · "s" "g") = [1, 1, 1, 2, 1, 2] := by
  have unbroken : Event.setRecorder false ∉ retried := by simp [retried]
  obtain ⟨counted, _⟩ := run_counted 0 .standard unbroken "s" "g"
  exact ⟨unbroken, counted, rfl⟩

end World

end PullConsumer
