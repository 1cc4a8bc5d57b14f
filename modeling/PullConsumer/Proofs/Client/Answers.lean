import PullConsumer.Proofs.Broker.Registry
import PullConsumer.Proofs.Client.Batches
import PullConsumer.Proofs.Client.Refreshes

/-! # What the answer of a broker means

An answer is interpreted by its code (`World.Interprets`). A rejection takes the answering group out
of use and starts a refresh, a failed lock is only logged, and any other answer delivers its batch.
What comes of the refresh is of no consequence (`World.run_interpreted`).
-/

namespace PullConsumer

/-- The warning about a message that was delivered too often. -/
def Delivery.warning? (delivery : Delivery) : Option Notice :=
  if 5 < delivery.message.times then
    some (.deliveredRepeatedly delivery.message.subject delivery.message.id delivery.message.times)
  else none

/-- Whether an effect is a warning about a message that was delivered too often. -/
def Effect.isWarning : Effect → Bool
  | .notice (.deliveredRepeatedly ..) => true
  | _ => false

namespace World

variable {world : World} {entry : PullEntry} {target : QueueId} {request : PullRequest}
  {response : PullResponse} {hook : Option HookId}

/-! ### Rejections -/

/-- A rejection makes the answering group unavailable and leaves its failures as they are, and it
starts one refresh for the subject and the group of the request. Other groups and everything else
stay as they are. -/
structure Rejects (world : World) (request : PullRequest) (group : GroupRef) (after : World) :
    Prop where
  rest : after = { world with
    registry := after.registry
    tasks := after.tasks
    nextTask := after.nextTask
    ready := after.ready }
  names : ∀ name, after.registry.find? name = world.registry.find? name
  health : ∀ held, after.registry.health held =
    if group.object = held.object then { world.registry.health group with available := false }
    else world.registry.health held
  unused : world.tasks.get? world.nextTask = none
  refresh : ∀ task, after.tasks.get? task =
    if world.nextTask = task then
      some (.refresh request.consume.subject request.consume.group false)
    else world.tasks.get? task
  ready : world.nextTask ∈ after.ready

/-- A rejected pull delivers nothing, takes the group out of use and asks for a refresh. -/
theorem handle_rejects (numbered : world.Numbered) (rejects : response.code = .brokerReject)
    (entry : PullEntry) (request : PullRequest) (hook : Option HookId) :
    (world.handle entry request response hook).2 = [] ∧
      world.Rejects request response.brokerGroup
        (world.handle entry request response hook).1 := by
  have handled : world.handle entry request response hook =
      (({ world with
        registry := world.registry.setAvailable response.brokerGroup false } : World).spawn
          (.refresh request.consume.subject request.consume.group false) |>.1, []) := by
    simp only [handle, rejects]
  rw [handled, spawn_eq]
  exact
    ⟨rfl,
      { rest := rfl
        names := fun _ => rfl
        health := fun held => GroupRegistry.health_change ..
        unused := numbered.tasks _ (Nat.le_refl _)
        refresh := fun task => Table.get?_set ..
        ready := by
          dsimp only
          split
          · assumption
          · exact List.mem_append_right _ (List.mem_singleton_self _) }⟩

/-! ### Deliveries -/

/-- A batch that is delivered is counted, and then it is taken in on behalf of the request: what is
registered, delivered and reported is what a batch for the subject and the filter of the request
brings about. In the end a warning is logged for each delivered message that was delivered more than
five times, in their order, and for no other. -/
structure Delivers (world : World) (target : QueueId) (request : PullRequest)
    (response : PullResponse) (hook : Option HookId) (after : World)
    (deliveries : List Delivery) : Prop where
  takes : ∃ received told counted,
    world.step (.receive target request.consume.subject
        (FilterRule.allAccept (FilterRule.ofRequest request)) hook response.messages) =
      (received, .delivered deliveries) ∧
    received = { world with
      queues := received.queues
      ready := received.ready
      history := told ++ world.history } ∧
    world.count .pullMessage
        ⟨request.consume.subject, request.consume.group, some request.brokerGroup.name⟩
        response.messages.length =
      { world with history := counted ++ world.history } ∧
    (∀ effect ∈ told ++ counted, effect.isWarning = false) ∧
    after = { received with history :=
      ((deliveries.filterMap Delivery.warning?).map Effect.notice).reverse ++ told ++ counted ++
        world.history }

/-- An increment only writes into the account. -/
theorem count_unwarned (world : World) (metric : Metric) (labels : Labels) (amount : Nat) :
    ∃ counted, world.count metric labels amount =
        { world with history := counted ++ world.history } ∧
      ∀ effect ∈ counted, effect.isWarning = false := by
  unfold count
  split
  · refine ⟨[.counted metric labels amount], rfl, fun effect member => ?_⟩
    cases List.mem_singleton.mp member
    rfl
  · refine ⟨[.notice (.bestEffortFailed metric.context (.metricsRecorder metric.name)),
      .recorderFailed metric], rfl, fun effect member => ?_⟩
    cases member with
    | head => rfl
    | tail _ last =>
        cases List.mem_singleton.mp last
        rfl

/-- Notices are written into the account, and nothing else. -/
theorem emitAll_notices (notices : List Notice) (world : World) :
    world.emitAll (notices.map Effect.notice) =
      { world with history := (notices.map Effect.notice).reverse ++ world.history } := by
  induction notices generalizing world with
  | nil => rfl
  | cons notice rest ih =>
      refine (ih (world.log notice)).trans ?_
      rw [List.map_cons, List.reverse_cons, List.append_assoc]
      rfl

/-- The warnings are those about the delivered messages. -/
theorem repeatedDeliveries_eq (deliveries : List Delivery) :
    repeatedDeliveries (deliveries.map fun delivery => ⟨delivery.message, delivery.offset⟩) =
      (deliveries.filterMap Delivery.warning?).map Effect.notice := by
  induction deliveries with
  | nil => rfl
  | cons delivery rest ih =>
      unfold repeatedDeliveries at ih ⊢
      rw [List.map_cons, List.filter_cons, List.filterMap_cons]
      by_cases often : 5 < delivery.message.times
      · have warns : delivery.warning? = some (.deliveredRepeatedly delivery.message.subject
            delivery.message.id delivery.message.times) := if_pos often
        have reported : decide (repeatedDeliveryThreshold < delivery.message.times) = true :=
          decide_eq_true often
        simp only [warns, reported, if_true, List.map_cons, ih]
      · have silent : delivery.warning? = none := if_neg often
        have passed : decide (repeatedDeliveryThreshold < delivery.message.times) = false :=
          decide_eq_false often
        simp only [silent, passed, Bool.false_eq_true, if_false, ih]

/-- What is reported about a batch is no warning. -/
theorem notice?_isWarning {subject : String} {accepts : Message → Bool} {mark : Mark}
    {notice : Notice} (reported : mark.notice? subject accepts = some notice) :
    (Effect.notice notice).isWarning = false := by
  cases mark with
  | offered message result =>
      cases result with
      | error fault =>
          cases reported
          rfl
      | ok offset =>
          simp only [Mark.notice?] at reported
          split at reported <;> cases reported
          rfl
  | called | answered => cases reported

/-- An answer with messages hands them to the queue, and what the queue accepts is delivered. -/
theorem handle_delivers_batch {queue : AckQueue} (serves : entry.queue = some target)
    (here : world.queues.get? target = some queue) (accepted : response.code ≠ .brokerReject)
    (locked : response.code ≠ .acquireLockFailed) (filled : response.messages ≠ [])
    (request : PullRequest) (hook : Option HookId) :
    world.Delivers target request response hook (world.handle entry request response hook).1
      (world.handle entry request response hook).2 where
  takes := by
    let accepts := FilterRule.allAccept (FilterRule.ofRequest request)
    let intake := queue.receive request.consume.subject accepts response.messages
    let deliveries := intake.accepted.map fun item =>
      (⟨item.message, target, item.offset, hook⟩ : Delivery)
    let told := (((queue.offers response.messages).filterMap
      (Mark.notice? request.consume.subject accepts)).map Effect.notice).reverse
    obtain ⟨counted, counts, uncounted⟩ := world.count_unwarned .pullMessage
      ⟨request.consume.subject, request.consume.group, some request.brokerGroup.name⟩
      response.messages.length
    obtain ⟨ready, same⟩ := emitAll_of_notices
      (queue.receive_notices request.consume.subject accepts response.messages)
      (world.setQueue target intake.queue)
    -- The batch is taken in after any past in the same way.
    have takes : ∀ past, ({ world with history := past } : World).receive target
        request.consume.subject accepts hook response.messages =
        ({ world with
            queues := world.queues.set target intake.queue
            ready := ready
            history := told ++ past }, deliveries) := by
      intro past
      simp only [receive, here]
      exact congrArg (·, deliveries) (same past)
    have handled : world.handle entry request response hook =
        ({ world with
            queues := world.queues.set target intake.queue
            ready := ready
            history := ((deliveries.filterMap Delivery.warning?).map Effect.notice).reverse ++
              told ++ counted ++ world.history }, deliveries) := by
      unfold handle
      split
      · exact absurd ‹_› accepted
      · exact absurd ‹_› locked
      · rw [if_neg (by simpa using filled)]
        simp only [serves, counts]
        rw [takes (counted ++ world.history)]
        dsimp only
        rw [repeatedDeliveries_eq, emitAll_notices]
        simp only [List.append_assoc]
    rw [handled]
    refine ⟨_, told, counted, congrArg (fun took => (took.1, Reply.delivered took.2))
      (takes world.history), rfl, counts, fun effect member => ?_, rfl⟩
    rcases List.mem_append.mp member with batch | count
    · obtain ⟨notice, reported, rfl⟩ := List.mem_map.mp (List.mem_reverse.mp batch)
      obtain ⟨mark, _, reports⟩ := List.mem_filterMap.mp reported
      exact notice?_isWarning reports
    · exact uncounted effect count

/-! ### All answers -/

/-- What the answer of a broker does, by its code. -/
structure Interprets (world : World) (entry : PullEntry) (target : QueueId)
    (request : PullRequest) (response : PullResponse) (hook : Option HookId) (after : World)
    (deliveries : List Delivery) : Prop where
  rejected : response.code = .brokerReject →
    deliveries = [] ∧ world.Rejects request response.brokerGroup after
  locked : response.code = .acquireLockFailed → deliveries = [] ∧
    after = world.log (.lockNotAcquired entry.assignment.subject entry.assignment.partition
      entry.assignment.group entry.assignment.brokerGroup)
  empty : response.code ≠ .brokerReject → response.code ≠ .acquireLockFailed →
    response.messages = [] → deliveries = [] ∧ after = world
  filled : response.code ≠ .brokerReject → response.code ≠ .acquireLockFailed →
    response.messages ≠ [] → world.Delivers target request response hook after deliveries

/-- An answer is interpreted by its code. -/
theorem interprets {queue : AckQueue} (numbered : world.Numbered)
    (serves : entry.queue = some target) (here : world.queues.get? target = some queue)
    (request : PullRequest) (response : PullResponse) (hook : Option HookId) :
    world.Interprets entry target request response hook
      (world.handle entry request response hook).1
      (world.handle entry request response hook).2 where
  rejected rejects := handle_rejects numbered rejects entry request hook
  locked fails := by
    have logged : world.handle entry request response hook = (world.log (.lockNotAcquired
        entry.assignment.subject entry.assignment.partition entry.assignment.group
        entry.assignment.brokerGroup), []) := by
      simp only [handle, fails]
    rw [logged]
    exact ⟨rfl, rfl⟩
  empty accepted unlocked nothing := by
    have still : world.handle entry request response hook = (world, []) := by
      unfold handle
      split
      · exact absurd ‹_› accepted
      · exact absurd ‹_› unlocked
      · rw [if_pos (List.isEmpty_iff.mpr nothing)]
    rw [still]
    exact ⟨rfl, rfl⟩
  filled accepted unlocked something :=
    handle_delivers_batch serves here accepted unlocked something request hook

/-- **Interpretation of an answer.** After every run, the answer of a broker to an entry with a
queue is interpreted by its code, whether it is handed over by the application or to a pull cycle.
The refresh that a rejection starts makes one call, and nothing but its own result and the lines
about its end depends on what is answered to that. -/
theorem run_interpreted (epoch : Nat) (settings : Settings) (events : List Event) {name : EntryId}
    {entry : PullEntry} {target : QueueId}
    (listed : ((initial epoch settings).run events).entries.get? name = some entry)
    (serves : entry.queue = some target) (request : PullRequest) (response : PullResponse)
    (hook : Option HookId) :
    let world := (initial epoch settings).run events
    (∃ after deliveries,
      world.step (.handle name request response hook) = (after, .delivered deliveries) ∧
        world.Interprets entry target request response hook after deliveries) ∧
    (∀ task size timeout deadline, world.tasks.get? task =
        some (.pull name size timeout hook (some (request, deadline))) → ∃ after deliveries,
      world.step (.respond task (.value response)) =
          (after.finish task (.delivered deliveries), .nothing) ∧
        (world.record (.responded task (.value response))).Interprets entry target request response
          hook after deliveries) ∧
    ∀ task subject group,
      (world.tasks.get? task = some (.refresh subject group false) →
        world.Refreshes task subject group) ∧
      (world.tasks.get? task = some (.refresh subject group true) → world.Ignores task) := by
  intro world
  have regular := run_regular epoch settings events
  have numbered := regular.proper.numbered
  obtain ⟨queue, here⟩ := regular.served name entry target listed serves
  refine ⟨⟨_, _, ?_, interprets numbered serves here request response hook⟩,
    fun task size timeout deadline own => ?_, fun task subject group => ⟨fun own => ?_,
    fun own => ?_⟩⟩
  · have present : world.entries.get? name = some entry := listed
    simp only [step, present]
    rfl
  · have present : world.entries.get? name = some entry := listed
    have answered : (world.record (.responded task (.value response))).Numbered :=
      ⟨numbered.tasks, numbered.queues⟩
    refine ⟨_, _, ?_, interprets answered serves here request response hook⟩
    simp only [step, respond, own, present]
  · exact regular.proper.refreshes own
  · exact regular.ignores (run_awaiting epoch settings events) own

/-- A request of an entry that asks the group `b`. -/
def askB : PullRequest :=
  ⟨.ofNames "s" "g" "c", ⟨"b", 0⟩, 10, 0, 0, .initial, "p", .shared, 0⟩

/-- The group `b` rejects a request, and the refresh makes its call. -/
def rejectedByB : List Event :=
  [.openEntry (.ofNames "s" "g" "p" "b" "c" .shared) (.ofNames "s" "g" "c"), .lookUpGroup "b",
    .handle 0 askB ⟨.brokerReject, ⟨"b", 0⟩, []⟩ none, .proceed 1 0]

/-- Two messages, of which the first was delivered six times. -/
def deliveredSixTimes : List Message :=
  [((default : Message).setKey .pullOffset "1").setKey .times "6",
    (default : Message).setKey .pullOffset "2"]

/-- The group is out of use after the rejection, a later batch is delivered with one warning, and
the end of the refresh is of no consequence. -/
theorem run_interpreted_rejectedByB :
    let world := (initial 0 .standard).run rejectedByB
    let deliveries := deliveredSixTimes.zipWith (fun message offset =>
      (⟨message, 0, offset, none⟩ : Delivery)) [1, 2]
    world.registry.isAvailable ⟨"b", 0⟩ = false ∧
      world.tasks.get? 1 = some (.refresh "s" "g" true) ∧
      (world.step (.handle 0 askB ⟨.success, ⟨"b", 0⟩, deliveredSixTimes⟩ none)).2.messages =
        deliveries ∧
      deliveries.filterMap Delivery.warning? = [.deliveredRepeatedly "" "" 6] ∧
      (∃ after, world.Delivers 0 askB ⟨.success, ⟨"b", 0⟩, deliveredSixTimes⟩ none after
        deliveries) ∧ world.Ignores 1 := by
  intro world deliveries
  obtain ⟨entry, listed, serves⟩ : ∃ entry, world.entries.get? 0 = some entry ∧
      entry.queue = some 0 := ⟨_, rfl, rfl⟩
  obtain ⟨⟨after, delivered, does, interprets⟩, _, refreshes⟩ := run_interpreted 0 .standard
    rejectedByB listed serves askB ⟨.success, ⟨"b", 0⟩, deliveredSixTimes⟩ none
  have handedOut : (world.step (.handle 0 askB ⟨.success, ⟨"b", 0⟩, deliveredSixTimes⟩
    none)).2.messages = deliveries := rfl
  have refresh : world.tasks.get? 1 = some (.refresh "s" "g" true) := rfl
  have same : delivered = deliveries := by
    have replied := congrArg (fun reply : World × Reply => reply.2.messages) does
    exact replied.symm.trans handedOut
  rw [same] at interprets
  exact ⟨rfl, refresh, handedOut, rfl, ⟨after, interprets.filled nofun nofun nofun⟩,
    (refreshes 1 "s" "g").2 refresh⟩

end World

end PullConsumer
