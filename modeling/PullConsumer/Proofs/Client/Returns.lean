import PullConsumer.Proofs.Client.Runs
import PullConsumer.Proofs.Queue.Returns

/-! # Returned messages along a run

Along every run of a client the log of the returns of a queue is orderly, and it has all the calls
of the queue and all the messages that the broker took back (`World.run_returned`).
-/

namespace PullConsumer

theorem AckQueue.Takes.keepsRejections {queue next : AckQueue} (takes : queue.Takes next) :
    queue.KeepsRejections next := by
  induction takes with
  | refl => exact .of_same rfl rfl rfl
  | register _ message ih => exact ih.trans (.register _ message)
  | @complete middle _ offset ih =>
      refine ih.trans (.resolve fun message rejected => ?_)
      rw [middle.stateOf?_resolve] at rejected
      split at rejected
      · exact nomatch rejected
      · exact rejected

namespace World

variable {world : World} {name : QueueId} {queue next : AckQueue} {event : Event}

/-- The line of an event that rejects a message of a queue whose entry is pending. -/
def rejectedIn (world : World) (name : QueueId) : Event → ReturnLog
  | .resolve queue offset (.retry message) =>
    if queue = name ∧ world.isPending name offset = true then [.rejected offset message] else []
  | _ => []

/-- The lines that an event leaves in the log of the returns of a queue. -/
def returnsIn (world : World) (name : QueueId) (event : Event) : ReturnLog :=
  match world.queues.get? name, (world.step event).1.queues.get? name with
  | some queue, some next =>
    world.rejectedIn name event ++ (world.lines name event).filterMap (queue.returnMark? next)
  | _, _ => []

/-- The log of the returns of a queue over a list of events. -/
def returns (name : QueueId) : World → List Event → ReturnLog
  | _, [] => []
  | world, event :: rest => world.returnsIn name event ++ returns name (world.step event).1 rest

theorem returns_append (name : QueueId) (world : World) (first second : List Event) :
    returns name world (first ++ second) =
      returns name world first ++ returns name (world.run first) second := by
  induction first generalizing world with
  | nil => rfl
  | cons event rest ih =>
      rw [List.cons_append, returns, returns, ih, List.append_assoc]
      rfl

/-- An event rejects one message at most, in an entry that is pending. -/
theorem rejectedIn_cases (world : World) (name : QueueId) (event : Event) :
    world.rejectedIn name event = [] ∨ ∃ offset message,
      event = .resolve name offset (.retry message) ∧ world.isPending name offset = true ∧
        world.rejectedIn name event = [.rejected offset message] := by
  unfold rejectedIn
  split
  · split
    · rename_i both
      obtain ⟨rfl, pending⟩ := both
      exact .inr ⟨_, _, rfl, pending, rfl⟩
    · exact .inl rfl
  · exact .inl rfl

/-- An entry is pending in the client if it is in its queue. -/
theorem isPending_iff (here : world.queues.get? name = some queue) (offset : Int) :
    world.isPending name offset = true ↔ queue.stateOf? offset = some .pending := by
  rw [isPending, here, Option.bind_some, beq_iff_eq]

/-- The log of an event consists of the rejection and of what its lines say about returns. -/
theorem returnsIn_of_get? (here : world.queues.get? name = some queue)
    (there : (world.step event).1.queues.get? name = some next) :
    world.returnsIn name event =
      world.rejectedIn name event ++
        (world.lines name event).filterMap (queue.returnMark? next) := by
  simp only [returnsIn, here, there]

/-- What is told of an intake are messages that are offered. -/
theorem offered_of_mem_offers {mark : Mark} {messages : List Message}
    (member : mark ∈ world.offers name messages) :
    ∃ message result, mark = .offered message result := by
  unfold offers at member
  split at member
  · exact AckQueue.offered_of_mem_offers member
  · exact absurd member List.not_mem_nil

/-- A step that rejects no message leaves the lines of its flush. -/
theorem QueueStep.traced {after : World} {account told : Account} {log : ReturnLog}
    (step : QueueStep world name queue event after told next)
    (here : world.queues.get? name = some queue) (unrejected : world.rejectedIn name event = [])
    (traced : queue.Traced account log) (sound : queue.Sound) (awaited : queue.Awaited account) :
    next.Traced (account ++ told) (log ++ told.filterMap (queue.returnMark? next)) := by
  have keeps : queue.KeepsRejections next → next.Traced (account ++ [])
      (log ++ List.filterMap (queue.returnMark? next) []) := by
    intro keeps
    rw [List.filterMap_nil, List.append_nil, List.append_nil]
    exact traced.kept keeps
  cases step with
  | takes takes => exact keeps takes.keepsRejections
  | resolves offset verdict =>
      refine keeps (.resolve fun message rejected => ?_)
      rw [queue.stateOf?_resolve] at rejected
      split at rejected
      · rename_i both
        cases verdict with
        | complete => exact nomatch rejected
        | retry other =>
            have pending := (isPending_iff here offset).mpr both.2
            simp only [rejectedIn, pending, and_self, if_true] at unrejected
            exact nomatch unrejected
      · exact rejected
  | background changed unlaunched noted => exact keeps (.background changed)
  | launches loop changed flushing absent launched =>
      exact keeps (AckQueue.KeepsRejections.trans (.background changed) (.of_same rfl rfl rfl))
  | begins task ready absent =>
      rcases ready with rfl | rfl
      · exact keeps (.of_same rfl rfl rfl)
      · exact keeps (AckQueue.KeepsRejections.trans (.background .destroy) (.of_same rfl rfl rfl))
  | flushes task acts follows => exact traced.follows sound awaited follows
  | leaves task => exact keeps (.closeFlush queue task)

/-- The application resolves an entry. -/
theorem step_resolve (here : world.queues.get? name = some queue) (offset : Int)
    (verdict : Verdict) :
    (world.step (.resolve name offset verdict)).1.queues.get? name =
        some (queue.resolve offset verdict).1 ∧
      world.lines name (.resolve name offset verdict) = [] := by
  refine ⟨resolve_queue here offset verdict, (lines_of_aside name (.inl rfl)).trans ?_⟩
  exact offers_of_unhanded rfl

/-- Every event keeps the log of the returns of a queue in order. -/
theorem Proper.traced_step (proper : world.Proper) (event : Event)
    (here : world.queues.get? name = some queue)
    (there : (world.step event).1.queues.get? name = some next) {account : Account}
    {log : ReturnLog} (recorded : queue.Recorded account) (traced : queue.Traced account log) :
    next.Traced (account ++ world.lines name event) (log ++ world.returnsIn name event) := by
  rw [returnsIn_of_get? here there]
  obtain ⟨told, after, found, lines, step⟩ := proper.queueStep event here
  cases there.symm.trans found
  rcases world.rejectedIn_cases name event with unrejected | ⟨offset, message, rfl, pending, line⟩
  · have offers : ∀ mark ∈ world.offers name (world.handed name event),
        ∃ message result, mark = .offered message result := fun _ => offered_of_mem_offers
    have silent : (world.offers name (world.handed name event)).filterMap
        (queue.returnMark? next) = [] := by
      refine List.filterMap_eq_nil_iff.mpr fun mark member => ?_
      obtain ⟨_, _, rfl⟩ := offers mark member
      rfl
    rw [lines, unrejected, List.nil_append, List.filterMap_append, silent, List.nil_append,
      ← List.append_assoc]
    refine step.traced here unrejected (traced.offered offers) recorded.sound
      fun task phase call runs calls => ?_
    rw [account.latest_append_offered offers]
    exact recorded.awaited task phase call runs calls
  · obtain ⟨place, silent⟩ := step_resolve here offset (.retry message)
    cases place.symm.trans there
    rw [silent, line, List.append_nil, List.filterMap_nil, List.append_nil]
    exact traced.rejected ((isPending_iff here offset).mp pending) message

/-- From a state that agrees with what was told so far, a run keeps the log in order. -/
theorem Proper.traced (proper : world.Proper) (events : List Event) (account : Account)
    (log : ReturnLog) (agrees : ∀ queue, world.queues.get? name = some queue →
      queue.Recorded account ∧ queue.Traced account log)
    (empty : world.queues.get? name = none → account = [] ∧ log = []) :
    ∀ queue, (world.run events).queues.get? name = some queue →
      queue.Traced (account ++ World.account name world events)
        (log ++ returns name world events) := by
  induction events generalizing world account log with
  | nil =>
      intro queue here
      rw [World.account, returns, List.append_nil, List.append_nil]
      exact (agrees queue here).2
  | cons event rest ih =>
      rw [World.account, returns, ← List.append_assoc, ← List.append_assoc]
      refine ih (proper.step event) (account ++ world.lines name event)
        (log ++ world.returnsIn name event) ?_ ?_
      · intro next there
        cases here : world.queues.get? name with
        | none =>
            -- A new queue has no entries.
            obtain ⟨rfl, rfl⟩ := empty here
            obtain ⟨⟨assignment, _, made⟩, _⟩ := proper.made event here there
            have recorded := (AckQueue.Recorded.ofAssignment assignment _).stride made.stride
            have entries : next.registered = [] :=
              List.map_eq_nil_iff.mp recorded.tallied.admitted
            have untold : world.returnsIn name event = [] := by
              simp only [returnsIn, here]
            rw [proper.lines_of_absent event here, untold]
            exact ⟨recorded, .of_empty entries⟩
        | some queue =>
            obtain ⟨recorded, traced⟩ := agrees queue here
            obtain ⟨after, found, stride⟩ := proper.stride event here
            cases there.symm.trans found
            exact ⟨recorded.stride stride, proper.traced_step event here there recorded traced⟩
      · intro gone
        cases here : world.queues.get? name with
        | none =>
            obtain ⟨rfl, rfl⟩ := empty here
            rw [proper.lines_of_absent event here]
            simp only [returnsIn, here, List.append_nil, and_self]
        | some queue =>
            obtain ⟨after, found, _⟩ := proper.stride event here
            exact absurd (found.symm.trans gone) (Option.some_ne_none after)

/-! ### Calls -/

/-- The log has every call of an event. -/
theorem Proper.returnsIn_calls (proper : world.Proper) (name : QueueId) (event : Event) :
    (world.returnsIn name event).filterMap ReturnMark.call? =
      (world.lines name event).filterMap Mark.call? := by
  cases here : world.queues.get? name with
  | none =>
      rw [proper.lines_of_absent event here]
      simp only [returnsIn, here, List.filterMap_nil]
  | some queue =>
      obtain ⟨next, there, stride⟩ := proper.stride event here
      have silent : (world.rejectedIn name event).filterMap ReturnMark.call? = [] := by
        rcases world.rejectedIn_cases name event with none | ⟨_, _, _, _, line⟩
        · rw [none]
          rfl
        · rw [line]
          rfl
      have reads : (world.lines name event).map (fun mark =>
          (queue.returnMark? next mark).bind ReturnMark.call?) =
          (world.lines name event).map Mark.call? := by
        refine List.map_congr_left fun mark member => ?_
        cases mark with
        | offered message result => rfl
        | answered task answer =>
            cases answer with
            | value result =>
                simp only [AckQueue.returnMark?]
                cases queue.returning? task <;> rfl
            | failed | panicked => rfl
        | called task call =>
            obtain ⟨phase, waits, calls⟩ := stride.calls member
            cases phase with
            | fresh | inLine | granted => cases calls
            | returning done current rest message =>
                cases calls
                simp only [AckQueue.returnMark?, AckQueue.returning?, waits]
                rfl
            | acking ready =>
                cases calls
                rfl
      have collected := congrArg (List.filterMap id) reads
      rw [List.filterMap_map, List.filterMap_map] at collected
      rw [returnsIn_of_get? here there, List.filterMap_append, silent, List.nil_append,
        List.filterMap_filterMap]
      exact collected

/-- The log of the returns has the calls of the account, and in the same order. -/
theorem Proper.returns_calls (proper : world.Proper) (name : QueueId) (events : List Event) :
    (returns name world events).filterMap ReturnMark.call? =
      (account name world events).filterMap Mark.call? := by
  induction events generalizing world with
  | nil => rfl
  | cons event rest ih =>
      rw [returns, account, List.filterMap_append, List.filterMap_append,
        proper.returnsIn_calls name event, ih (proper.step event)]

/-! ### Runs -/

/-- A rejected message goes back to the broker. The acknowledgment fails and is asked for again. -/
def returnedOnce : List Event :=
  let message := (default : Message).setKey .pullOffset "1"
  let flush := fun task =>
    [.begin (.flush 0 100), .proceed task 0, .proceed task 0, .proceed task 0]
  [.openQueue (.ofNames "s" "g" "p" "b" "c" .shared), .register 0 message,
    .resolve 0 1 (.retry message)] ++ flush 0 ++
    [.answer 0 (.value ()), .answer 0 (.failed (.transport "gone"))] ++ flush 1

variable (epoch : Nat) (settings : Settings) (events : List Event)

/-- **Messages go back once.** After every run, the log of the returns of a queue is orderly: the
message of an entry is asked back only with the message of its one rejection, under the broker group
of the assignment and until it was taken back once, and an acknowledgment that covers the entry
comes after that. The log has all calls of the queue, and all messages that the broker took back. -/
theorem run_returned
    (here : ((initial epoch settings).run events).queues.get? name = some queue) :
    (returns name (initial epoch settings) events).Orderly queue.assignment.brokerGroup ∧
    (returns name (initial epoch settings) events).filterMap ReturnMark.call? =
      (account name (initial epoch settings) events).filterMap Mark.call? ∧
    (returns name (initial epoch settings) events).filterMap ReturnMark.returned? =
      (account name (initial epoch settings) events).acceptedCalls.filterMap Call.returned? := by
  have proper := proper_initial epoch settings
  have traced := proper.traced events [] []
    (fun queue found => absurd found.symm (Option.some_ne_none queue)) (fun _ => ⟨rfl, rfl⟩)
    queue here
  exact ⟨traced.orderly, proper.returns_calls name events, traced.returned⟩

/-- The message goes back before the first acknowledgment, and not again before the second. -/
theorem run_returned_returnedOnce :
    let message := (default : Message).setKey .pullOffset "1"
    let request := AckRequest.ofRange (.ofNames "s" "g" "p" "b" "c" .shared) 1 1
    returns 0 (initial 0 .standard) returnedOnce =
        [.rejected 1 message, .asked 1 "b" message, .returned 1 message,
          .acknowledging "b" request, .acknowledging "b" request] ∧
      (returns 0 (initial 0 .standard) returnedOnce).Orderly "b" := by
  obtain ⟨queue, here, brokerGroup⟩ : ∃ queue,
      ((initial 0 .standard).run returnedOnce).queues.get? 0 = some queue ∧
        queue.assignment.brokerGroup = "b" := ⟨_, rfl, rfl⟩
  obtain ⟨orderly, _⟩ := run_returned 0 .standard returnedOnce here
  rw [brokerGroup] at orderly
  exact ⟨rfl, orderly⟩

end World

end PullConsumer
