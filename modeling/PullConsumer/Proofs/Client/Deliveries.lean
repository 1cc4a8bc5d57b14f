import PullConsumer.Proofs.Client.Handouts
import PullConsumer.Proofs.Queue.Pending

/-! # What the application holds

An operation of a client or the end of one of its tasks hands messages to the application
(`World.handedOut`). If a queue takes in messages in this way only, each of its pending entries
belongs to exactly one message that the application got (`World.run_held`).
-/

namespace PullConsumer

/-- The messages that a reply hands to the application. -/
def Reply.messages : Reply → List Delivery
  | .delivered deliveries => deliveries
  | _ => []

namespace World

variable {world : World} {name : QueueId} {queue next : AckQueue} {event : Event}
  {handed : List Delivery}

/-- The messages with which a task ends by an event. -/
def endsWith (world : World) (event : Event) : List Delivery :=
  match event.actor? with
  | some task =>
    if (world.tasks.get? task).isSome then
      (((world.step event).1.results.get? task).map TaskResult.messages).getD []
    else []
  | none => []

/-- The messages that an event hands to the application. -/
def handedOut (world : World) (event : Event) : List Delivery :=
  (world.step event).2.messages ++ world.endsWith event

/-- The messages that the application gets over a list of events. -/
def deliveries : World → List Event → List Delivery
  | _, [] => []
  | world, event :: rest => world.handedOut event ++ deliveries (world.step event).1 rest

/-! ### Intake -/

/-- What an event takes in and hands out. -/
inductive Intake (world : World) (event : Event) : Prop
  | idle (queues : (world.step event).1.queues = world.queues)
      (nothing : world.handedOut event = [])
  /-- No queue is offered a message, unless it is registered directly. -/
  | silent (unoffered : ∀ name, (∀ message, event ≠ .register name message) →
      World.handed world name event = []) (nothing : world.handedOut event = [])
  /-- A queue takes in a batch, and what it accepts is handed out. -/
  | batch {name : QueueId} {queue : AckQueue} {subject : String} {accepts : Message → Bool}
      {hook : Option HookId} {messages : List Message}
      (here : world.queues.get? name = some queue)
      (queues : (world.step event).1.queues =
        world.queues.set name (queue.receive subject accepts messages).queue)
      (delivered : world.handedOut event =
        (queue.receive subject accepts messages).accepted.map fun item =>
          ⟨item.message, name, item.offset, hook⟩)

/-- A task that ends without messages. -/
theorem endsWith_of_deliversNothing (filed : world.Filed)
    (undelivered : DeliversNothing world (world.step event).1) :
    world.endsWith event = [] := by
  unfold endsWith
  split
  · rename_i task actor
    split
    · rename_i lives
      cases found : (world.step event).1.results.get? task with
      | none => rfl
      | some result =>
          cases result with
          | delivered deliveries =>
              refine (undelivered.results task deliveries found).resolve_right fun before => ?_
              rw [(filed task _ before).2] at lives
              exact Bool.false_ne_true lives
          | _ => rfl
    · rfl
  · rfl

/-- An event that hands out nothing by itself and lets no pull end with messages. -/
theorem handedOut_of_deliversNothing (filed : world.Filed)
    (reply : (world.step event).2.messages = [])
    (other : ∀ task answer, event ≠ .respond task answer) : world.handedOut event = [] := by
  rcases step_deliversNothing world event with undelivered | ⟨task, _, _, _, _, responds⟩
  · rw [handedOut, reply, endsWith_of_deliversNothing filed undelivered]
    rfl
  · exact absurd responds.event (other task _)

/-- What the answer to a pull means to the queues, when it is interpreted and handed out. -/
theorem intake_of_handle {middle : World} {entry : PullEntry} {request : PullRequest}
    {response : PullResponse} {hook : Option HookId} (same : middle.queues = world.queues)
    (queues : (world.step event).1.queues = (middle.handle entry request response hook).1.queues)
    (delivered : world.handedOut event = (middle.handle entry request response hook).2) :
    world.Intake event := by
  rcases handle_delivers middle entry request response hook with
    ⟨still, nothing⟩ | ⟨name, queue, subject, accepts, _, here, received, accepted⟩
  · exact .idle (queues.trans (still.trans same)) (delivered.trans nothing)
  · rw [same] at here received
    exact .batch here (queues.trans received) (delivered.trans accepted)

/-- What a task that pulls delivers was taken in by a queue. -/
theorem respond_intake (filed : world.Filed) (task : TaskId) (answer : Answer PullResponse) :
    world.Intake (.respond task answer) := by
  by_cases answered : ∃ entry request response hook,
      world.Responds task entry request response hook (.respond task answer)
  · obtain ⟨entry, request, response, hook, responds⟩ := answered
    obtain ⟨queues, results⟩ := responds.delivers
    have same : (world.record (.responded task (.value response))).queues = world.queues := rfl
    refine intake_of_handle same queues ?_
    obtain ⟨_, _, _, _, own, _⟩ := responds.own
    simp only [handedOut, endsWith, Event.actor?, own, results, Table.get?_set, if_true]
    rfl
  · have undelivered : DeliversNothing world (world.step (.respond task answer)).1 := by
      refine (step_deliversNothing world (.respond task answer)).resolve_right ?_
      rintro ⟨_, entry, request, response, hook, responds⟩
      cases responds.event
      exact answered ⟨entry, request, response, hook, responds⟩
    refine .silent (fun name _ => ?_) ?_
    · cases answer with
      | failed | panicked => rfl
      | value response =>
          simp only [World.handed]
          split
          · rename_i entryName size timeout hook calling own
            cases present : world.entries.get? entryName with
            | none => exact pulled_of_absent present name response
            | some entry =>
                exact absurd ⟨entry, calling.1, response, hook, rfl, entryName, size, timeout,
                  calling.2, own, present⟩ answered
          · rfl
    · rw [handedOut, endsWith_of_deliversNothing filed undelivered]
      rfl

/-- An event takes in a batch and hands out what is accepted, or it hands out nothing. -/
theorem step_intake (filed : world.Filed) (event : Event) : world.Intake event := by
  cases event with
  | respond task answer => exact respond_intake filed task answer
  | receive target subject accepts hook messages =>
      cases here : world.queues.get? target with
      | none =>
          have nothing : world.receive target subject accepts hook messages = (world, []) := by
            simp only [receive, here]
          refine .idle (congrArg (queues ∘ Prod.fst) nothing) ?_
          exact congrArg (fun received : World × List Delivery => received.2 ++ []) nothing
      | some queue =>
          obtain ⟨queues, delivered⟩ := receive_delivers here subject accepts hook messages
          exact .batch here queues ((List.append_nil _).trans delivered)
  | handle entryName request response hook =>
      cases present : world.entries.get? entryName with
      | none =>
          refine .idle ?_ ?_
          · simp only [step, present]
          · simp only [handedOut, step, present]
            rfl
      | some entry =>
          have queues : (world.step (.handle entryName request response hook)).1.queues =
              (world.handle entry request response hook).1.queues := by
            simp only [step, present]
          have delivered : world.handedOut (.handle entryName request response hook) =
              (world.handle entry request response hook).2 := by
            simp only [handedOut, step, present]
            exact List.append_nil _
          exact intake_of_handle rfl queues delivered
  | register target message =>
      refine .silent (fun name other => ?_) ?_
      · exact if_neg fun same => other message (congrArg (Event.register · message) same)
      · refine handedOut_of_deliversNothing filed ?_ (by rintro _ _ ⟨⟩)
        simp only [step]
        split <;> rfl
  | markFailed entryName group =>
      refine .silent (fun _ _ => rfl) (handedOut_of_deliversNothing filed ?_ (by rintro _ _ ⟨⟩))
      simp only [step]
      split <;> rfl
  | acknowledge delivery =>
      refine .silent (fun _ _ => rfl) (handedOut_of_deliversNothing filed ?_ (by rintro _ _ ⟨⟩))
      simp only [step]
      split <;> rfl
  | _ => exact .silent (fun _ _ => rfl) (handedOut_of_deliversNothing filed rfl (by rintro _ _ ⟨⟩))

/-- Where no message is offered to a queue, it admits none. -/
theorem admitted_of_unoffered (unoffered : World.handed world name event = []) :
    (world.lines name event).admitted = [] := by
  rw [lines, unoffered, offers_nil, List.nil_append]
  refine List.filterMap_eq_nil_iff.mpr fun mark member => ?_
  have about := (List.mem_filter.mp member).2
  cases mark with
  | offered => simp [Mark.task?] at about
  | called | answered => rfl

/-- What an event adds to a queue, and what it hands out of it, unless it registers directly. -/
theorem Intake.adds (intake : world.Intake event) (proper : world.Proper)
    (unregistered : ∀ message, event ≠ .register name message)
    (here : world.queues.get? name = some queue) :
    ∃ next accepted hook, (world.step event).1.queues.get? name = some next ∧
      queue.Adds next accepted ∧
      (world.handedOut event).filter (fun delivery => delivery.queue = name) =
        accepted.map fun item => ⟨item.message, name, item.offset, hook⟩ := by
  cases intake with
  | idle queues nothing =>
      rw [nothing]
      exact ⟨queue, [], none, by rw [queues, here], .of_stride (.still queue) rfl, rfl⟩
  | silent unoffered nothing =>
      obtain ⟨next, there, stride⟩ := proper.stride event here
      rw [nothing]
      exact ⟨next, [], none, there,
        .of_stride stride (admitted_of_unoffered (unoffered name unregistered)), rfl⟩
  | @batch target other subject accepts hook messages found queues delivered =>
      rw [queues, delivered, Table.get?_set, List.filter_map]
      by_cases same : target = name
      · subst same
        cases here.symm.trans found
        refine ⟨_, _, hook, if_pos rfl, queue.receive_adds subject accepts messages, ?_⟩
        exact congrArg _ (List.filter_eq_self.mpr fun _ _ => decide_eq_true rfl)
      · refine ⟨queue, [], none, (if_neg same).trans here, .of_stride (.still queue) rfl, ?_⟩
        rw [List.filter_eq_nil_iff.mpr fun _ _ => by simpa using same]
        rfl

/-- A queue that is not there hands out nothing. -/
theorem Intake.of_absent (intake : world.Intake event)
    (absent : world.queues.get? name = none) :
    (world.handedOut event).filter (fun delivery => delivery.queue = name) = [] := by
  cases intake with
  | idle _ nothing | silent _ nothing =>
      rw [nothing]
      rfl
  | batch found queues delivered =>
      rw [delivered, List.filter_map, List.filter_eq_nil_iff.mpr, List.map_nil]
      rintro item _ same
      rw [← of_decide_eq_true same, found] at absent
      exact nomatch absent

end World

/-! ### Pending entries and messages -/

/-- Each pending entry belongs to one of the messages that were handed out of a queue, and to no
other. -/
structure AckQueue.Held (queue : AckQueue) (held : List Delivery) : Prop where
  below : ∀ delivery ∈ held, delivery.offset ≤ queue.window.max
  owned : ∀ offset, queue.stateOf? offset = some .pending →
    ∃ delivery, held.filter (fun delivery => delivery.offset = offset) = [delivery] ∧
      delivery.message.pullOffset = .ok offset

/-- What is added is handed out with messages of its own. -/
theorem AckQueue.Held.adds {queue next : AckQueue} {held : List Delivery} {accepted : List Accepted}
    (holds : queue.Held held) (ordered : queue.Ordered) (adds : queue.Adds next accepted)
    (name : QueueId) (hook : Option HookId) :
    next.Held (held ++ accepted.map fun item => ⟨item.message, name, item.offset, hook⟩) := by
  obtain ⟨above, increasing⟩ := List.pairwise_cons.mp adds.increasing
  refine ⟨fun delivery member => ?_, fun offset pending => ?_⟩
  · rcases List.mem_append.mp member with old | new
    · exact Int.le_trans (holds.below delivery old) adds.top
    · obtain ⟨item, accepts, rfl⟩ := List.mem_map.mp new
      exact adds.below item accepts
  · rw [List.filter_append, List.filter_map]
    -- What is added lies above all that was handed out, so no offset is on both sides.
    rcases adds.pending offset pending with before | added
    · obtain ⟨delivery, alone, valid⟩ := holds.owned offset before
      have listed := (queue.exists_stateOf?_iff offset).mp ⟨_, before⟩
      have below : offset ≤ queue.window.max := by
        rw [ordered.top]
        exact Increasing.le_getLastD ordered.increasing offset (List.mem_cons_of_mem _ listed)
      refine ⟨delivery, ?_, valid⟩
      rw [alone, List.filter_eq_nil_iff.mpr]
      · rfl
      · intro item accepts same
        have equal : item.offset = offset := of_decide_eq_true same
        have higher := above item.offset (List.mem_map_of_mem accepts)
        rw [equal] at higher
        exact absurd below (Int.not_le.mpr higher)
    · obtain ⟨item, accepts, rfl⟩ := List.mem_map.mp added
      refine ⟨⟨item.message, name, item.offset, hook⟩, ?_, adds.valid item accepts⟩
      have others : held.filter (fun delivery => delivery.offset = item.offset) = [] := by
        refine List.filter_eq_nil_iff.mpr fun delivery member same => ?_
        have lower := holds.below delivery member
        rw [of_decide_eq_true same] at lower
        exact absurd lower (Int.not_le.mpr (above item.offset (List.mem_map_of_mem accepts)))
      have own : accepted.filter (fun other => other.offset = item.offset) = [item] :=
        Increasing.filter_eq_singleton increasing accepts
      rw [others, List.nil_append]
      exact congrArg _ own

namespace World

variable {world : World} {name : QueueId} {queue : AckQueue}

/-- What each event keeps of a queue together with the messages handed out of it, a run keeps. -/
theorem Proper.handing {motive : AckQueue → List Delivery → Prop} (proper : world.Proper)
    (filed : world.Filed) (handed : List Delivery) (events : List Event)
    (made : ∀ {assignment settings queue}, AckQueue.Made assignment settings queue →
      motive queue [])
    (step : ∀ {world : World} {event : Event} {queue : AckQueue} {held : List Delivery},
      event ∈ events → world.Proper → world.Intake event → world.queues.get? name = some queue →
      motive queue held → ∃ next, (world.step event).1.queues.get? name = some next ∧
        motive next (held ++ (world.handedOut event).filter fun delivery => delivery.queue = name))
    (start : ∀ queue, world.queues.get? name = some queue →
      motive queue (handed.filter fun delivery => delivery.queue = name))
    (empty : world.queues.get? name = none →
      handed.filter (fun delivery => delivery.queue = name) = []) :
    ∀ queue, (world.run events).queues.get? name = some queue →
      motive queue ((handed ++ deliveries world events).filter fun delivery =>
        delivery.queue = name) := by
  -- What the application got so far is carried along; a queue that is made on the way starts empty.
  induction events generalizing world handed with
  | nil =>
      rw [deliveries, List.append_nil]
      exact start
  | cons event rest ih =>
      have intake := step_intake filed event
      rw [deliveries, ← List.append_assoc]
      refine ih (proper.step event) ((proper.doneBy event).filed filed) _
        (fun member => step (List.mem_cons_of_mem _ member)) ?_ ?_
      · intro next there
        rw [List.filter_append]
        cases here : world.queues.get? name with
        | none =>
            rw [empty here, intake.of_absent here]
            obtain ⟨⟨assignment, _, fresh⟩, _⟩ := proper.made event here there
            exact made fresh
        | some queue =>
            obtain ⟨other, found, kept⟩ :=
              step List.mem_cons_self proper intake here (start queue here)
            cases there.symm.trans found
            exact kept
      · intro gone
        cases here : world.queues.get? name with
        | none => rw [List.filter_append, empty here, intake.of_absent here, List.nil_append]
        | some queue =>
            obtain ⟨next, there, _⟩ := proper.stride event here
            exact nomatch there.symm.trans gone

/-- From a state in which the pending entries of a queue belong to messages, a run keeps them so. -/
theorem Proper.held (proper : world.Proper) (filed : world.Filed) (handed : List Delivery)
    (events : List Event) (unregistered : ∀ message, Event.register name message ∉ events)
    (start : ∀ queue, world.queues.get? name = some queue →
      queue.Held (handed.filter fun delivery => delivery.queue = name))
    (empty : world.queues.get? name = none →
      handed.filter (fun delivery => delivery.queue = name) = []) :
    ∀ queue, (world.run events).queues.get? name = some queue →
      queue.Held ((handed ++ deliveries world events).filter fun delivery =>
        delivery.queue = name) := by
  refine proper.handing filed handed events (fun made => ?_)
    (fun {before event queue held} member proper intake here holds => ?_) start empty
  · cases made with
    | opened | started => exact ⟨fun _ => nofun, fun _ => nofun⟩
  · have direct : ∀ message, event ≠ .register name message := fun message same =>
      unregistered message (same ▸ member)
    obtain ⟨next, accepted, hook, there, adds, handed⟩ := intake.adds proper direct here
    have sound := (proper.tidy name).sound queue here
    rw [handed]
    exact ⟨next, there, holds.adds sound.ordered adds name hook⟩

variable (epoch : Nat) (settings : Settings) (events : List Event)

/-- After every run in which a queue takes in messages by pulls only, each of its pending entries
belongs to exactly one of the messages that the application got. -/
theorem run_held (unregistered : ∀ message, Event.register name message ∉ events)
    (here : ((initial epoch settings).run events).queues.get? name = some queue) :
    queue.Held ((deliveries (initial epoch settings) events).filter fun delivery =>
      delivery.queue = name) :=
  (proper_initial epoch settings).held (fun _ _ found => nomatch found) [] events unregistered
    (fun _ found => nomatch found) (fun _ => rfl) queue here

end World

end PullConsumer
