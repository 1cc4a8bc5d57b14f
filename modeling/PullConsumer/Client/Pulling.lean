import PullConsumer.Client.World

/-! # Pull cycles

A cycle passes four gates in order: the entry is not destroyed, it is no placeholder, its lease has
not run out, and its broker group is available. Then the broker is called, and its answer decides
what is delivered.
-/

namespace PullConsumer

/-- Deliveries above this count are reported. -/
def repeatedDeliveryThreshold : Nat := 5

namespace World

/-- The ack window of an entry; that of a placeholder is empty. -/
def windowOf (world : World) (entry : PullEntry) : AckWindow :=
  match entry.queue.bind fun name => world.queues.get? name with
  | some queue => queue.window
  | none => .initial

/-- The pull timeout that an entry reads at the moment. -/
def timeoutOf (world : World) (subject : String) : Nat :=
  match world.live.timeout? subject with
  | some cell => cell.value
  | none => world.live.current.timeoutOf subject

/-- The request of one cycle of an entry, with the timeout of the moment. -/
def requestOf (world : World) (entry : PullEntry) (consume : ConsumeParam) (group : GroupRef)
    (window : AckWindow) (size timeout : Nat) : PullRequest where
  consume := consume
  brokerGroup := group
  batchSize := size
  timeout := timeout
  requestTimeout := world.timeoutOf entry.assignment.subject
  window := window
  partition := entry.assignment.partition
  strategy := entry.assignment.strategy
  version := entry.assignment.version

/-- For whom the pulls of an entry are counted. -/
def labelsOf (entry : PullEntry) : Labels :=
  ⟨entry.assignment.subject, entry.assignment.group, none⟩

/-- The notice about a broker group that a failure takes out of use. -/
def failureNotices (registry : GroupRegistry) (group : GroupRef) : List Effect :=
  if registry.isAvailable group then
    [.notice (.groupMarkedUnavailable (registry.health group).name
      (registry.health group).markFailed.failures)]
  else []

/-- Notes a failed pull against a broker group. -/
def markFailed (world : World) (entry : PullEntry) (group : GroupRef) : World :=
  let counted := world.count .pullFail (labelsOf entry) 1
  { counted with registry := counted.registry.markFailed group }.emitAll
    (failureNotices counted.registry group)

/-- The notices about messages that were delivered too often. -/
def repeatedDeliveries (accepted : List Accepted) : List Effect :=
  (accepted.filter fun item => repeatedDeliveryThreshold < item.message.times).map fun item =>
    .notice (.deliveredRepeatedly item.message.subject item.message.id item.message.times)

/-- Registers and filters a batch and hands out the rest. -/
def receive (world : World) (name : QueueId) (subject : String) (accepts : Message → Bool)
    (hook : Option HookId) (messages : List Message) : World × List Delivery :=
  match world.queues.get? name with
  | none => (world, [])
  | some queue =>
    let intake := queue.receive subject accepts messages
    ((world.setQueue name intake.queue).emitAll intake.effects,
      intake.accepted.map fun item => ⟨item.message, name, item.offset, hook⟩)

/-- Interprets the answer of a broker. A rejection takes the answering group out of use and starts
a refresh; a failed lock delivers nothing; every other answer delivers its messages. -/
def handle (world : World) (entry : PullEntry) (request : PullRequest) (response : PullResponse)
    (hook : Option HookId) : World × List Delivery :=
  match response.code with
  | .brokerReject =>
    let rejected :=
      { world with registry := world.registry.setAvailable response.brokerGroup false }
    ((rejected.spawn (.refresh request.consume.subject request.consume.group false)).1, [])
  | .acquireLockFailed =>
    (world.log (.lockNotAcquired entry.assignment.subject entry.assignment.partition
      entry.assignment.group entry.assignment.brokerGroup), [])
  | _ =>
    if response.messages.isEmpty then (world, [])
    else match entry.queue with
      | none => (world.log (.placeholderDropped response.messages.length), [])
      | some name =>
        let counted := world.count .pullMessage
          ⟨request.consume.subject, request.consume.group, some request.brokerGroup.name⟩
          response.messages.length
        let (received, deliveries) := counted.receive name request.consume.subject
          (FilterRule.allAccept (FilterRule.ofRequest request)) hook response.messages
        (received.emitAll (repeatedDeliveries (deliveries.map fun delivery =>
          ⟨delivery.message, delivery.offset⟩)), deliveries)

/-- Begins a pull cycle: checks the gates and calls the broker. -/
def beginPull (world : World) (task : TaskId) (name : EntryId) (size timeout : Nat)
    (hook : Option HookId) : World :=
  match world.entries.get? name with
  | none => world
  | some entry =>
    if entry.destroyed then world.finish task (.failed .entryDestroyed)
    else if entry.queue.isNone then world.finish task (.failed .placeholderEntry)
    else if entry.assignment.isExpired (world.epoch + world.clock) then
      (world.log (.leaseExpired entry.assignment.subject entry.assignment.partition)).finish task
        (.delivered [])
    else
      let (registry, group) := world.registry.lookUp entry.assignment.brokerGroup
      let found := { world with registry := registry }
      if !registry.isAvailable group then
        (found.log (.groupUnavailable group.name)).finish task (.delivered [])
      else
        let counted := found.count .pullWork (labelsOf entry) 1
        let request :=
          counted.requestOf entry entry.consume group (counted.windowOf entry) size timeout
        (counted.setTask task
          (.pull name size timeout hook (some (request, world.clock + request.requestTimeout)))).emit
            (.called task (.pull request (registry.isAvailable group)))

/-- Hands the answer of the broker to the pull cycle that waits for it. -/
def respond (world : World) (task : TaskId) (answer : Answer PullResponse) : World :=
  match world.tasks.get? task with
  | some (.pull name _ _ hook (some (request, _))) =>
    match world.entries.get? name with
    | none => world
    | some entry =>
      let answered := world.record (.responded task answer)
      match answer with
      | .value response =>
        let (handled, deliveries) := answered.handle entry request response hook
        handled.finish task (.delivered deliveries)
      | .failed fault => (answered.markFailed entry request.brokerGroup).finish task (.failed fault)
      | .panicked text => answered.finish task (.panicked text)
  | _ => world

/-- The fault of a pull that took too long. -/
def pullTimeout (request : PullRequest) : Fault :=
  .transport
    s!"pull request to {request.brokerGroup.name} timed out after {request.requestTimeout}ms"

/-- Ends a pull cycle whose deadline has come. -/
def expirePull (world : World) (task : TaskId) (name : EntryId) (request : PullRequest) : World :=
  match world.entries.get? name with
  | none => world
  | some entry =>
    (world.markFailed entry request.brokerGroup).finish task (.failed (pullTimeout request))

end World

end PullConsumer
