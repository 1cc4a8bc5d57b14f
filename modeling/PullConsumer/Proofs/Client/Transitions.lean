import PullConsumer.Proofs.Client.Changes

/-! # What an event changes

Which elementary changes an event comes down to, and under which conditions, is said once for every
event and every procedure (`World.Transition`). An event takes a client through the changes of each
of its transitions (`World.Transition.step`), and what a step keeps, tells or counts is read off
these changes.
-/

namespace PullConsumer

/-- The time that a hand-back allows for the flush of the queue. -/
def HandBack.timeout (kind : HandBack) (entry : PullEntry) : Nat :=
  match kind with
  | .destroy => entry.drainTimeout
  | .offline => entry.offlineTimeout

/-- The intake of a pulled batch, for the subject and the filter of its request. -/
abbrev AckQueue.receiveFor (queue : AckQueue) (request : PullRequest) (messages : List Message) :
    Intake :=
  queue.receive request.consume.subject (FilterRule.allAccept (FilterRule.ofRequest request))
    messages

namespace World

/-- What the answer of a broker changes, and what it delivers. -/
inductive Handling (world : World) (entry : PullEntry) (request : PullRequest)
    (response : PullResponse) (hook : Option HookId) : List Change → List Delivery → Prop
  /-- A rejection takes the answering group out of use and starts a refresh. -/
  | rejected (rejects : response.code = .brokerReject) :
      Handling world entry request response hook
        [.setRegistry (world.registry.setAvailable response.brokerGroup false),
          .spawn (.refresh request.consume.subject request.consume.group false)] []
  | unlocked (failed : response.code = .acquireLockFailed) :
      Handling world entry request response hook
        [.effect (.notice (.lockNotAcquired entry.assignment.subject entry.assignment.partition
          entry.assignment.group entry.assignment.brokerGroup))] []
  | empty (accepted : response.code ≠ .brokerReject) (locked : response.code ≠ .acquireLockFailed)
      (nothing : response.messages = []) : Handling world entry request response hook [] []
  /-- A placeholder drops its messages. -/
  | dropped (accepted : response.code ≠ .brokerReject)
      (locked : response.code ≠ .acquireLockFailed) (something : response.messages ≠ [])
      (unserved : entry.queue = none) :
      Handling world entry request response hook
        [.effect (.notice (.placeholderDropped response.messages.length))] []
  /-- The queue of the entry is not there. -/
  | missing {name : QueueId} (accepted : response.code ≠ .brokerReject)
      (locked : response.code ≠ .acquireLockFailed) (something : response.messages ≠ [])
      (serves : entry.queue = some name) (absent : world.queues.get? name = none) :
      Handling world entry request response hook
        [.effect (.counted .pullMessage ⟨request.consume.subject, request.consume.group,
          some request.brokerGroup.name⟩ response.messages.length)] []
  /-- The messages are counted, taken in and delivered. -/
  | delivered {name : QueueId} {queue : AckQueue}
      (accepted : response.code ≠ .brokerReject) (locked : response.code ≠ .acquireLockFailed)
      (something : response.messages ≠ []) (serves : entry.queue = some name)
      (here : world.queues.get? name = some queue) :
      Handling world entry request response hook
        (.effect (.counted .pullMessage ⟨request.consume.subject, request.consume.group,
          some request.brokerGroup.name⟩ response.messages.length) ::
          .setQueue name (queue.receiveFor request response.messages).queue ::
          Change.effects ((queue.receiveFor request response.messages).effects ++
            repeatedDeliveries (queue.receiveFor request response.messages).accepted))
        ((queue.receiveFor request response.messages).accepted.map fun item =>
          ⟨item.message, name, item.offset, hook⟩)

/-- All that an event can change, by what it finds. -/
inductive Transition (world : World) : Event → List Change → Prop
  | opensQueue (assignment : Assignment) :
      Transition world (.openQueue assignment)
        [.makeQueue world.nextQueue (.ofAssignment assignment world.live.current)]
  /-- A schedule that was started before is not started again. -/
  | startsTwice {name : QueueId} {queue : AckQueue} (here : world.queues.get? name = some queue)
      (started : queue.isStarted = true) :
      Transition world (.startQueue name)
        [.effect (.notice (.queueAlreadyStarted queue.assignment.subject))]
  | starts {name : QueueId} {queue : AckQueue} (here : world.queues.get? name = some queue)
      (unstarted : queue.isStarted = false) :
      Transition world (.startQueue name)
        [.spawn (.schedule name), .setQueue name (queue.startSchedule world.nextTask)]
  | discards {name : QueueId} {queue : AckQueue} (here : world.queues.get? name = some queue) :
      Transition world (.discardQueue name) (stopping name queue)
  | registers {name : QueueId} {queue : AckQueue} (message : Message)
      (here : world.queues.get? name = some queue) :
      Transition world (.register name message) [.setQueue name (queue.register message).1]
  | resolves {name : QueueId} {queue : AckQueue} (offset : Int) (verdict : Verdict)
      (here : world.queues.get? name = some queue) :
      Transition world (.resolve name offset verdict)
        (.setQueue name (queue.resolve offset verdict).1 ::
          Change.effects (queue.resolve offset verdict).2)
  | receives {name : QueueId} {queue : AckQueue} (subject : String) (accepts : Message → Bool)
      (hook : Option HookId) (messages : List Message)
      (here : world.queues.get? name = some queue) :
      Transition world (.receive name subject accepts hook messages)
        (.setQueue name (queue.receive subject accepts messages).queue ::
          Change.effects (queue.receive subject accepts messages).effects)
  | opensPlaceholder {assignment : Assignment} (consume : ConsumeParam)
      (blank : assignment.isPlaceholder = true) :
      Transition world (.openEntry assignment consume)
        [.setLive (world.live.handOut assignment.subject),
          .makeEntry ⟨assignment, consume, none, world.live.current.destroyDrainTimeout.toNat,
            world.live.current.offlineFlushTimeout.toNat, false, false⟩]
  /-- A pull entry comes with a queue of its own, whose schedule has been started. -/
  | opensEntry {assignment : Assignment} {queue : AckQueue} (consume : ConsumeParam)
      (regular : assignment.isPlaceholder = false)
      (fresh : queue =
        (AckQueue.ofAssignment assignment world.live.current).startSchedule world.nextTask) :
      Transition world (.openEntry assignment consume)
        [.makeQueue world.nextQueue queue, .spawn (.schedule world.nextQueue),
          .setLive (world.live.handOut assignment.subject),
          .makeEntry ⟨assignment, consume, some world.nextQueue,
            world.live.current.destroyDrainTimeout.toNat,
            world.live.current.offlineFlushTimeout.toNat, false, false⟩]
  | handles {name : EntryId} {entry : PullEntry} {request : PullRequest} {response : PullResponse}
      {hook : Option HookId} {changes : List Change} {deliveries : List Delivery}
      (present : world.entries.get? name = some entry)
      (handles : Handling world entry request response hook changes deliveries) :
      Transition world (.handle name request response hook) changes
  | fails {name : EntryId} {entry : PullEntry} (group : GroupRef)
      (present : world.entries.get? name = some entry) :
      Transition world (.markFailed name group) (world.failing entry group)
  | hooks {delivery : Delivery} {hook : HookId} (hooked : delivery.hook = some hook) :
      Transition world (.acknowledge delivery) [.effect (.hooked hook delivery.message.id)]
  | acknowledges {delivery : Delivery} {queue : AckQueue} (unhooked : delivery.hook = none)
      (here : world.queues.get? delivery.queue = some queue) :
      Transition world (.acknowledge delivery)
        (.setQueue delivery.queue (queue.resolve delivery.offset .complete).1 ::
          Change.effects (queue.resolve delivery.offset .complete).2)
  | looksUp (name : String) :
      Transition world (.lookUpGroup name) [.setRegistry (world.registry.lookUp name).1]
  | announces (name : String) :
      Transition world (.groupAvailable name)
        (.setRegistry (world.registry.markAvailable name) ::
          Change.effects (announceNotices world.registry name))
  | sets (group : GroupRef) (available : Bool) :
      Transition world (.setGroup group available)
        [.setRegistry (world.registry.setAvailable group available)]
  | removes (name : String) :
      Transition world (.removeGroup name) [.setRegistry (world.registry.remove name)]
  | applies (settings : Settings) :
      Transition world (.applySettings settings)
        (.setLive (world.live.apply settings) :: Change.effects (reloadNotices world.live settings))
  | setsRecorder (works : Bool) : Transition world (.setRecorder works) [.setRecorder works]
  | begins (procedure : Procedure) : Transition world (.begin procedure) [.spawn procedure.task]
  /-- The schedule begins to wait. -/
  | entersWait {task : TaskId} {name : QueueId} {queue : AckQueue} {failures : Nat} (draw : Nat)
      (own : world.tasks.get? task = some (.schedule name))
      (here : world.queues.get? name = some queue)
      (entering : queue.schedule = .entering failures) :
      Transition world (.proceed task draw)
        [.setQueue name (queue.enterWait world.clock draw)]
  /-- The schedule hears the signal and launches a flush. -/
  | hears {task : TaskId} {name : QueueId} {queue : AckQueue} {due : Nat} (draw : Nat)
      (own : world.tasks.get? task = some (.schedule name))
      (here : world.queues.get? name = some queue) (idle : queue.schedule = .idle due)
      (notified : queue.signal.listener = .notified) :
      Transition world (.proceed task draw)
        [.spawn (.scheduledFlush name task),
          .setQueue name
            ({ queue with signal := queue.signal.consume }.launch 0 world.nextTask)]
  /-- The schedule takes note of the end of its flush. -/
  | notes {task : TaskId} {name : QueueId} {queue : AckQueue} {failures : Nat} {flush : TaskId}
      {ended : FlushEnd} (draw : Nat) (own : world.tasks.get? task = some (.schedule name))
      (here : world.queues.get? name = some queue)
      (flushing : queue.schedule = .flushing failures flush)
      (filed : (world.results.get? flush).bind flushEnd? = some ended) :
      Transition world (.proceed task draw)
        (.collect flush :: .setQueue name (queue.noteFlush failures ended).1 ::
          Change.effects (queue.noteFlush failures ended).2)
  /-- A flush goes on. -/
  | flushes {task : TaskId} {own : Task} {name : QueueId} {queue : AckQueue} (draw : Nat)
      (there : world.tasks.get? task = some own) (runs : own.flushOf? = some name)
      (here : world.queues.get? name = some queue) :
      Transition world (.proceed task draw)
        (adopting task name own.isFinal (queue.proceedFlush task))
  /-- A queue that is closed is not closed again. -/
  | closesTwice {task : TaskId} {name : QueueId} {queue : AckQueue} {timeout : Nat}
      {parent : Option TaskId} (draw : Nat)
      (own : world.tasks.get? task = some (.drain name timeout true none parent))
      (here : world.queues.get? name = some queue) (closed : queue.destroyed = true) :
      Transition world (.proceed task draw)
        [.effect (.notice (.queueAlreadyDestroyed queue.assignment.subject)),
          .finish task (.outcome .drained)]
  /-- A queue is closed, and its last flush begins. -/
  | closes {task : TaskId} {name : QueueId} {queue closed : AckQueue} {timeout : Nat}
      {parent : Option TaskId} (draw : Nat)
      (own : world.tasks.get? task = some (.drain name timeout true none parent))
      (here : world.queues.get? name = some queue) (alive : queue.destroyed = false)
      (marked : closed = { queue with destroyed := true }.stopSchedule) :
      Transition world (.proceed task draw)
        (halting queue ++
          [.setQueue name (closed.openFlush task),
            .setTask task (.drain name timeout true (some (world.clock + timeout)) parent)])
  /-- A bounded flush begins. -/
  | drains {task : TaskId} {name : QueueId} {queue : AckQueue} {timeout : Nat}
      {parent : Option TaskId} (draw : Nat)
      (own : world.tasks.get? task = some (.drain name timeout false none parent))
      (here : world.queues.get? name = some queue) :
      Transition world (.proceed task draw)
        [.setQueue name (queue.openFlush task),
          .setTask task (.drain name timeout false (some (world.clock + timeout)) parent)]
  /-- A pull cycle ends with an error, as its entry is torn down or a placeholder. -/
  | refuses {task : TaskId} {name : EntryId} {entry : PullEntry} {size timeout : Nat}
      {hook : Option HookId} {fault : Fault} (draw : Nat)
      (own : world.tasks.get? task = some (.pull name size timeout hook none))
      (present : world.entries.get? name = some entry)
      (shut : entry.destroyed = true ∧ fault = .entryDestroyed ∨
        entry.destroyed = false ∧ entry.queue = none ∧ fault = .placeholderEntry) :
      Transition world (.proceed task draw) [.finish task (.failed fault)]
  /-- The lease of the entry has run out. -/
  | lapses {task : TaskId} {name : EntryId} {entry : PullEntry} {size timeout : Nat}
      {hook : Option HookId} (draw : Nat)
      (own : world.tasks.get? task = some (.pull name size timeout hook none))
      (present : world.entries.get? name = some entry) (standing : entry.destroyed = false)
      (serves : entry.queue ≠ none)
      (expired : entry.assignment.isExpired (world.epoch + world.clock) = true) :
      Transition world (.proceed task draw)
        [.effect (.notice (.leaseExpired entry.assignment.subject entry.assignment.partition)),
          .finish task (.delivered [])]
  /-- The broker group is out of use. -/
  | skips {task : TaskId} {name : EntryId} {entry : PullEntry} {size timeout : Nat}
      {hook : Option HookId} {registry : GroupRegistry} {group : GroupRef} (draw : Nat)
      (own : world.tasks.get? task = some (.pull name size timeout hook none))
      (present : world.entries.get? name = some entry) (standing : entry.destroyed = false)
      (serves : entry.queue ≠ none)
      (leased : entry.assignment.isExpired (world.epoch + world.clock) = false)
      (found : world.registry.lookUp entry.assignment.brokerGroup = (registry, group))
      (unavailable : registry.isAvailable group = false) :
      Transition world (.proceed task draw)
        [.setRegistry registry, .effect (.notice (.groupUnavailable group.name)),
          .finish task (.delivered [])]
  /-- The broker is asked for messages. -/
  | pulls {task : TaskId} {name : EntryId} {entry : PullEntry} {size timeout : Nat}
      {hook : Option HookId} {registry : GroupRegistry} {group : GroupRef}
      {request : PullRequest} (draw : Nat)
      (own : world.tasks.get? task = some (.pull name size timeout hook none))
      (present : world.entries.get? name = some entry) (standing : entry.destroyed = false)
      (serves : entry.queue ≠ none)
      (leased : entry.assignment.isExpired (world.epoch + world.clock) = false)
      (found : world.registry.lookUp entry.assignment.brokerGroup = (registry, group))
      (available : registry.isAvailable group = true)
      (asked : request =
        world.requestOf entry entry.consume group (world.windowOf entry) size timeout) :
      Transition world (.proceed task draw)
        [.setRegistry registry, .effect (.counted .pullWork (labelsOf entry) 1),
          .setTask task (.pull name size timeout hook
            (some (request, world.clock + request.requestTimeout))),
          .effect (.called task (.pull request true))]
  /-- A hand-back with nothing to flush ends. -/
  | relinquishes {task : TaskId} {name : EntryId} {entry : PullEntry} {kind : HandBack}
      {marks : List Change} (draw : Nat)
      (own : world.tasks.get? task = some (.handBack name kind .begun))
      (present : world.entries.get? name = some entry)
      (idle : kind = .destroy ∧ entry.destroyed = true ∧ marks = [] ∨
        ¬ (kind = .destroy ∧ entry.destroyed = true) ∧ entry.queue = none ∧
          marks = marking kind name entry) :
      Transition world (.proceed task draw) (marks ++ [.finish task .done])
  /-- A hand-back starts a flush and waits for it. -/
  | handsBack {task : TaskId} {name : EntryId} {entry : PullEntry} {kind : HandBack}
      {queue : QueueId} (draw : Nat)
      (own : world.tasks.get? task = some (.handBack name kind .begun))
      (present : world.entries.get? name = some entry)
      (first : ¬ (kind = .destroy ∧ entry.destroyed = true)) (serves : entry.queue = some queue) :
      Transition world (.proceed task draw)
        (marking kind name entry ++
          [.spawn (.drain queue (kind.timeout entry) (kind = .destroy) none (some task)),
            .setTask task (.handBack name kind (.draining world.nextTask))])
  /-- A hand-back goes on from the end of its flush. -/
  | concludes {task : TaskId} {name : EntryId} {entry : PullEntry} {kind : HandBack}
      {drain : TaskId} {result : TaskResult} (draw : Nat)
      (own : world.tasks.get? task = some (.handBack name kind (.draining drain)))
      (filed : world.results.get? drain = some result)
      (present : world.entries.get? name = some entry) :
      Transition world (.proceed task draw)
        (.collect drain :: Change.effects (drainNotices kind entry.assignment.subject result) ++
          releasing task name kind entry)
  | refreshes {task : TaskId} {subject group : String} (draw : Nat)
      (own : world.tasks.get? task = some (.refresh subject group false)) :
      Transition world (.proceed task draw)
        [.setTask task (.refresh subject group true),
          .effect (.called task (@Call.refresh .consumer subject group))]
  /-- A flush gets an answer. -/
  | answersFlush {task : TaskId} {own : Task} {name : QueueId} {queue : AckQueue}
      (answer : Answer Unit) (there : world.tasks.get? task = some own)
      (runs : own.flushOf? = some name) (here : world.queues.get? name = some queue) :
      Transition world (.answer task answer)
        (adopting task name own.isFinal (queue.answerFlush task answer))
  | answersRelease {task : TaskId} {name : EntryId} {kind : HandBack} (answer : Answer Unit)
      (own : world.tasks.get? task = some (.handBack name kind .releasing)) :
      Transition world (.answer task answer)
        (.effect (.answered task answer) ::
          Change.effects (releaseNotices (world.entries.get? name) kind answer) ++
          [.finish task (answerEnd answer)])
  | answersRefresh {task : TaskId} {subject group : String} (answer : Answer Unit)
      (own : world.tasks.get? task = some (.refresh subject group true)) :
      Transition world (.answer task answer)
        (.effect (.answered task answer) :: Change.effects (refreshNotices answer) ++
          [.finish task (answerEnd answer)])
  /-- A pull cycle gets an answer. -/
  | responds {task : TaskId} {name : EntryId} {entry : PullEntry} {size timeout : Nat}
      {hook : Option HookId} {request : PullRequest} {deadline : Nat} {response : PullResponse}
      {changes : List Change} {deliveries : List Delivery}
      (own : world.tasks.get? task = some (.pull name size timeout hook (some (request, deadline))))
      (present : world.entries.get? name = some entry)
      (handles : Handling world entry request response hook changes deliveries) :
      Transition world (.respond task (.value response))
        (.effect (.responded task (.value response)) :: changes ++
          [.finish task (.delivered deliveries)])
  | respondsFailed {task : TaskId} {name : EntryId} {entry : PullEntry} {size timeout : Nat}
      {hook : Option HookId} {request : PullRequest} {deadline : Nat} (fault : Fault)
      (own : world.tasks.get? task = some (.pull name size timeout hook (some (request, deadline))))
      (present : world.entries.get? name = some entry) :
      Transition world (.respond task (.failed fault))
        (.effect (.responded task (.failed fault)) :: world.failing entry request.brokerGroup ++
          [.finish task (.failed fault)])
  | respondsPanicked {task : TaskId} {name : EntryId} {entry : PullEntry} {size timeout : Nat}
      {hook : Option HookId} {request : PullRequest} {deadline : Nat} (text : String)
      (own : world.tasks.get? task = some (.pull name size timeout hook (some (request, deadline))))
      (present : world.entries.get? name = some entry) :
      Transition world (.respond task (.panicked text))
        [.effect (.responded task (.panicked text)), .finish task (.panicked text)]
  /-- The interval is over, and the schedule launches a flush. -/
  | elapses {task : TaskId} {name : QueueId} {queue : AckQueue} {due : Nat}
      (own : world.tasks.get? task = some (.schedule name))
      (here : world.queues.get? name = some queue) (idle : queue.schedule = .idle due)
      (late : due ≤ world.clock) :
      Transition world (.expire task)
        [.spawn (.scheduledFlush name task),
          .setQueue name ({ queue with signal := queue.signal.leave }.launch 0 world.nextTask)]
  /-- The delay after failures is over, and the schedule launches a flush. -/
  | retries {task : TaskId} {name : QueueId} {queue : AckQueue} {failures due : Nat}
      (own : world.tasks.get? task = some (.schedule name))
      (here : world.queues.get? name = some queue)
      (waiting : queue.schedule = .backingOff failures due) (late : due ≤ world.clock) :
      Transition world (.expire task)
        [.spawn (.scheduledFlush name task),
          .setQueue name (queue.launch failures world.nextTask)]
  /-- A bounded flush has run out of time. -/
  | timesOut {task : TaskId} {name : QueueId} {queue : AckQueue} {timeout deadline : Nat}
      {final : Bool} {parent : Option TaskId}
      (own : world.tasks.get? task = some (.drain name timeout final (some deadline) parent))
      (here : world.queues.get? name = some queue) (late : deadline ≤ world.clock) :
      Transition world (.expire task)
        (dropping task name queue ++
          .effect (.notice (.flushTimedOut queue.assignment.subject queue.assignment.partition
            timeout)) ::
          concluding task (queue.closeFlush task).1 final (.outcome .timedOut))
  /-- A pull has run out of time. -/
  | overruns {task : TaskId} {name : EntryId} {entry : PullEntry} {size timeout : Nat}
      {hook : Option HookId} {request : PullRequest} {deadline : Nat}
      (own : world.tasks.get? task = some (.pull name size timeout hook (some (request, deadline))))
      (present : world.entries.get? name = some entry) (late : deadline ≤ world.clock) :
      Transition world (.expire task)
        (world.failing entry request.brokerGroup ++ [.finish task (.failed (pullTimeout request))])
  /-- The schedule of a queue is cancelled. -/
  | abortsSchedule {task : TaskId} {name : QueueId} {queue : AckQueue}
      (own : world.tasks.get? task = some (.schedule name))
      (here : world.queues.get? name = some queue) :
      Transition world (.abort task) (stopping name queue)
  /-- A flush is cancelled, also one that has not begun. -/
  | abortsFlush {task : TaskId} {own : Task} {name : QueueId} {queue : AckQueue}
      (there : world.tasks.get? task = some own) (works : own.worksOn? = some name)
      (here : world.queues.get? name = some queue) :
      Transition world (.abort task)
        (dropping task name queue ++ [.finish task .cancelled])
  /-- A task that works on no queue is cancelled, or one whose queue is not there. -/
  | aborts {task : TaskId} {own : Task} (there : world.tasks.get? task = some own)
      (unscheduled : ∀ name, own ≠ .schedule name)
      (absent : ∀ name, own.worksOn? = some name → world.queues.get? name = none) :
      Transition world (.abort task) [.finish task .cancelled]
  | passes (milliseconds : Nat) : Transition world (.tick milliseconds) [.pass milliseconds]

variable {world : World} {event : Event} {changes : List Change}

/-! ### Steps -/

/-- The handling of an answer brings its changes about and delivers its messages. -/
theorem Handling.eq {entry : PullEntry} {request : PullRequest} {response : PullResponse}
    {hook : Option HookId} {deliveries : List Delivery}
    (handles : Handling world entry request response hook changes deliveries) :
    world.handle entry request response hook = (world.after changes, deliveries) := by
  cases handles with
  | rejected rejects =>
      simp only [handle, rejects]
      rfl
  | unlocked failed =>
      simp only [handle, failed]
      rfl
  | empty accepted locked nothing =>
      unfold handle
      split
      · exact absurd ‹_› accepted
      · exact absurd ‹_› locked
      · simp only [nothing, List.isEmpty_nil, if_true]
        rfl
  | dropped accepted locked something unserved =>
      unfold handle
      split
      · exact absurd ‹_› accepted
      · exact absurd ‹_› locked
      · rw [if_neg (fun empty => something (List.isEmpty_iff.mp empty)), unserved]
        rfl
  | missing accepted locked something serves absent =>
      unfold handle
      split
      · exact absurd ‹_› accepted
      · exact absurd ‹_› locked
      · rw [if_neg (fun empty => something (List.isEmpty_iff.mp empty)), serves]
        simp only [receive, frame_count, absent]
        rfl
  | delivered accepted locked something serves here =>
      unfold handle
      split
      · exact absurd ‹_› accepted
      · exact absurd ‹_› locked
      · rw [if_neg (fun empty => something (List.isEmpty_iff.mp empty)), serves]
        simp only [receive, frame_count, here, List.map_map, after_cons, after_effects, apply, emit,
          emitAll, List.foldl_append, Function.comp_def, List.map_id']

/-- What an answer changes does not depend on the account. -/
theorem Handling.record {entry : PullEntry} {request : PullRequest} {response : PullResponse}
    {hook : Option HookId} {deliveries : List Delivery}
    (handles : Handling world entry request response hook changes deliveries) (effect : Effect) :
    Handling (world.record effect) entry request response hook changes deliveries := by
  cases handles with
  | rejected rejects => exact .rejected rejects
  | unlocked failed => exact .unlocked failed
  | empty accepted locked nothing => exact .empty accepted locked nothing
  | dropped accepted locked something unserved => exact .dropped accepted locked something unserved
  | missing accepted locked something serves absent =>
      exact .missing accepted locked something serves absent
  | delivered accepted locked something serves here =>
      exact .delivered accepted locked something serves here

/-- A final flush of a queue that is there begins. -/
theorem beginDrain_final {task : TaskId} {name : QueueId} {queue : AckQueue} {timeout : Nat}
    {parent : Option TaskId} (here : world.queues.get? name = some queue)
    (alive : queue.destroyed = false) :
    world.beginDrain task name timeout true parent =
      world.after (halting queue ++
        [.setQueue name ({ queue with destroyed := true }.stopSchedule.openFlush task),
          .setTask task (.drain name timeout true (some (world.clock + timeout)) parent)]) := by
  have marked : (world.setQueue name { queue with destroyed := true }).queues.get? name =
      some { queue with destroyed := true } :=
    (Table.get?_set ..).trans (if_pos rfl)
  have stopped : ((world.setQueue name { queue with destroyed := true }).stopSchedule
      name).queues.get? name = some ({ queue with destroyed := true } : AckQueue).stopSchedule := by
    simp only [stopSchedule, marked]
    split <;> exact (Table.get?_set ..).trans (if_pos rfl)
  simp only [beginDrain, here, alive, Bool.and_false, Bool.false_eq_true, if_false, if_true,
    onQueue, stopped]
  cases loop : queue.loop <;>
    simp [stopSchedule, halting, loop, apply, setQueue, setTask, emitAll, Table.set_set]

/-- The request of a cycle reads neither the registry nor the account. -/
theorem requestOf_count (world : World) (registry : GroupRegistry) (metric : Metric)
    (labels : Labels) (amount : Nat) (entry : PullEntry) (consume : ConsumeParam)
    (group : GroupRef) (window : AckWindow) (size timeout : Nat) :
    (({ world with registry := registry } : World).count metric labels amount).requestOf entry
      consume group window size timeout =
        world.requestOf entry consume group window size timeout := by
  rw [count_eq]
  rfl

/-- Neither a change of the registry nor an increment moves a window. -/
theorem windowOf_count (world : World) (registry : GroupRegistry) (metric : Metric)
    (labels : Labels) (amount : Nat) (entry : PullEntry) :
    (({ world with registry := registry } : World).count metric labels amount).windowOf entry =
      world.windowOf entry := by
  rw [count_eq]
  rfl

/-- The task of a flush lets it go on, and hands answers to it. -/
theorem flush_eq {task : TaskId} {own : Task} {name : QueueId} {queue : AckQueue}
    (there : world.tasks.get? task = some own) (runs : own.flushOf? = some name)
    (here : world.queues.get? name = some queue) (draw : Nat) (answer : Answer Unit) :
    (world.step (.proceed task draw)).1 = world.adopt task name (queue.proceedFlush task) ∧
      (world.step (.answer task answer)).1 =
        world.adopt task name (queue.answerFlush task answer) := by
  cases own with
  | scheduledFlush target parent =>
      cases runs
      simp only [World.step, proceed, World.answer, proceedFlush, answerFlush, there, here,
        and_self]
  | drain target timeout final deadline parent =>
      cases deadline with
      | none => cases runs
      | some deadline =>
          cases runs
          simp only [World.step, proceed, World.answer, proceedFlush, answerFlush, there, here,
            and_self]
  | schedule | pull | handBack | refresh => cases runs

/-- Nothing stops an event at a task whose time has come. -/
theorem expire_of_due {task : TaskId} {due : Nat} (waits : world.due? task = some due)
    (late : due ≤ world.clock) : world.expire task =
      match world.tasks.get? task with
      | some (.schedule queue) => world.expireSchedule task queue
      | some (.drain queue timeout final (some _) _) => world.expireDrain task queue timeout final
      | some (.pull entry _ _ _ (some (request, _))) => world.expirePull task entry request
      | _ => world := by
  have early : (world.due? task).all (world.clock < ·) = false := by
    rw [waits, Option.all_some]
    exact decide_eq_false (Nat.not_lt.mpr late)
  unfold expire
  rw [early]
  rfl

/-- The queue of a new entry is made, and its schedule is started. -/
theorem startQueue_openQueue (assignment : Assignment) :
    (world.openQueue assignment).1.startQueue (world.openQueue assignment).2 =
      world.after [.makeQueue world.nextQueue
        ((AckQueue.ofAssignment assignment world.live.current).startSchedule world.nextTask),
        .spawn (.schedule world.nextQueue)] := by
  have made : (world.openQueue assignment).1.queues.get? world.nextQueue =
      some (.ofAssignment assignment world.live.current) :=
    (Table.get?_set ..).trans (if_pos rfl)
  have unstarted : (AckQueue.ofAssignment assignment world.live.current).isStarted = false := rfl
  have opened : (world.openQueue assignment).2 = world.nextQueue := rfl
  simp only [opened, startQueue, made, unstarted, Bool.false_eq_true, if_false, spawn_eq,
    after_cons, after_nil, apply]
  simp only [openQueue, setQueue, Table.set_set]
  rfl

/-- A bounded flush that is late leaves its queue and ends with a notice. -/
theorem expireDrain_eq {task : TaskId} {name : QueueId} {queue : AckQueue}
    (here : world.queues.get? name = some queue) (timeout : Nat) (final : Bool) :
    world.expireDrain task name timeout final =
      world.after (dropping task name queue ++
        .effect (.notice (.flushTimedOut queue.assignment.subject queue.assignment.partition
          timeout)) :: concluding task (queue.closeFlush task).1 final (.outcome .timedOut)) := by
  have left : ((world.onQueue name fun queue => queue.closeFlush task).log
      (.flushTimedOut queue.assignment.subject queue.assignment.partition
        timeout)).queues.get? name = some (queue.closeFlush task).1 := by
    simp only [onQueue, here]
    change (World.emitAll _ _).queues.get? name = _
    rw [(frame_emitAll _ _).1]
    exact (Table.get?_set ..).trans (if_pos rfl)
  simp only [expireDrain, here, after_append, dropping_eq here, after_cons]
  exact (concluding_eq left final (.outcome .timedOut)).symm

/-- **Transitions.** An event takes a client through the changes of each of its transitions. -/
theorem Transition.step (transition : Transition world event changes) :
    (world.step event).1 = world.after changes := by
  cases transition with
  | opensQueue | looksUp | sets | removes | setsRecorder | begins | passes => rfl
  | startsTwice here started =>
      simp only [World.step, startQueue, here, started, if_true]
      rfl
  | starts here unstarted =>
      simp only [World.step, startQueue, here, unstarted, Bool.false_eq_true, if_false]
      rfl
  | discards here => exact (stopping_eq here).symm
  | registers message here =>
      simp only [World.step, here]
      rfl
  | resolves offset verdict here =>
      simp only [World.step, World.resolve, onQueue, here, after_cons, after_effects, apply]
  | receives subject accepts hook messages here =>
      simp only [World.step, World.receive, here, after_cons, after_effects, apply]
  | opensPlaceholder consume blank =>
      simp only [World.step, openEntry, blank, if_true]
      rfl
  | opensEntry consume regular fresh =>
      subst fresh
      simp only [World.step, openEntry, regular, Bool.false_eq_true, if_false,
        startQueue_openQueue, after_cons, after_nil, apply, spawn_eq]
      rfl
  | handles present handles =>
      simp only [World.step, present, handles.eq]
  | fails group present =>
      simp only [World.step, present, failing_eq]
  | hooks hooked =>
      simp only [World.step, hooked]
      rfl
  | acknowledges unhooked here =>
      simp only [World.step, unhooked, World.resolve, onQueue, here, after_cons, after_effects,
        apply]
  | announces name =>
      simp only [World.step, World.groupAvailable, after_cons, after_effects, apply]
  | applies settings =>
      simp only [World.step, World.applySettings, after_cons, after_effects, apply]
  | entersWait draw own here entering =>
      simp only [World.step, proceed, own, proceedSchedule, here, entering]
      rfl
  | hears draw own here idle notified =>
      simp only [World.step, proceed, own, proceedSchedule, here, idle, notified, if_true]
      rfl
  | notes draw own here flushing filed =>
      simp only [World.step, proceed, own, proceedSchedule, here, flushing, filed, after_cons,
        after_effects, apply]
  | flushes draw there runs here =>
      rw [adopting_eq there runs]
      exact (flush_eq there runs here draw (.value ())).1
  | closesTwice draw own here closed =>
      simp only [World.step, proceed, own, beginDrain, here, closed, Bool.and_self, if_true]
      rfl
  | closes draw own here alive marked =>
      subst marked
      simp only [World.step, proceed, own, beginDrain_final here alive]
  | drains draw own here =>
      simp only [World.step, proceed, own, beginDrain, here, Bool.false_and, Bool.false_eq_true,
        if_false, onQueue]
      rfl
  | refuses draw own present shut =>
      simp only [World.step, proceed, own, beginPull, present]
      rcases shut with ⟨destroyed, rfl⟩ | ⟨standing, unserved, rfl⟩
      · simp only [destroyed, if_true]
        rfl
      · simp only [standing, unserved, Bool.false_eq_true, if_false, Option.isNone_none, if_true]
        rfl
  | lapses draw own present standing serves expired =>
      simp only [World.step, proceed, own, beginPull, present, standing, Bool.false_eq_true,
        if_false, if_neg (fun unserved => serves (Option.isNone_iff_eq_none.mp unserved)), expired,
        if_true]
      rfl
  | skips draw own present standing serves leased found unavailable =>
      simp only [World.step, proceed, own, beginPull, present, standing, Bool.false_eq_true,
        if_false, if_neg (fun unserved => serves (Option.isNone_iff_eq_none.mp unserved)), leased,
        found, unavailable, Bool.not_false, if_true]
      rfl
  | pulls draw own present standing serves leased found available asked =>
      subst asked
      simp only [World.step, proceed, own, beginPull, present, standing, Bool.false_eq_true,
        if_false, if_neg (fun unserved => serves (Option.isNone_iff_eq_none.mp unserved)), leased,
        found, available, Bool.not_true, requestOf_count, windowOf_count]
      rfl
  | relinquishes draw own present idle =>
      rename_i task name entry kind marks
      simp only [World.step, proceed, own, beginHandBack, present]
      rcases idle with ⟨rfl, destroyed, rfl⟩ | ⟨first, unserved, rfl⟩
      · simp only [destroyed, and_self, if_true]
        rfl
      · rw [if_neg first]
        cases entry
        cases unserved
        cases kind <;> rfl
  | handsBack draw own present first serves =>
      rename_i task name entry kind queue
      simp only [World.step, proceed, own, beginHandBack, present]
      rw [if_neg first]
      cases entry
      cases serves
      cases kind <;> rfl
  | concludes draw own filed present =>
      simp only [World.step, proceed, own, concludeHandBack, filed, present, List.cons_append,
        after_cons, after_append, after_effects, apply, releasing_eq]
  | refreshes draw own =>
      simp only [World.step, proceed, own]
      rfl
  | answersFlush answer there runs here =>
      rw [adopting_eq there runs]
      exact (flush_eq there runs here 0 answer).2
  | answersRelease answer own =>
      rename_i name kind
      simp only [World.step, World.answer, own, answerRelease]
      cases answer with
      | value => rfl
      | failed fault =>
          cases world.entries.get? name with
          | none => rfl
          | some entry => cases kind <;> rfl
      | panicked text => rfl
  | answersRefresh answer own =>
      simp only [World.step, World.answer, own, answerRefresh]
      cases answer <;> rfl
  | responds own present handles =>
      simp only [World.step, respond, own, present, (handles.record _).eq, after_cons,
        List.cons_append, after_append]
      rfl
  | respondsFailed fault own present =>
      simp only [World.step, respond, own, present, List.cons_append, after_cons, after_append]
      exact congrArg (World.finish · _ _) (failing_eq ..).symm
  | respondsPanicked text own present =>
      simp only [World.step, respond, own, present]
      rfl
  | elapses own here idle late =>
      rename_i task name queue due
      have waits : world.due? task = some due := by
        simp only [due?, own, here, Option.bind_some, AckQueue.scheduleDue?, idle]
      simp only [World.step, expire_of_due waits late, own, expireSchedule, here, idle,
        late, if_true]
      rfl
  | retries own here waiting late =>
      rename_i task name queue failures due
      have waits : world.due? task = some due := by
        simp only [due?, own, here, Option.bind_some, AckQueue.scheduleDue?, waiting]
      simp only [World.step, expire_of_due waits late, own, expireSchedule, here, waiting, late,
        if_true]
      rfl
  | timesOut own here late =>
      rename_i task name queue timeout deadline final parent
      have waits : world.due? task = some deadline := by
        simp only [due?, own]
      simp only [World.step, expire_of_due waits late, own, expireDrain_eq here]
  | overruns own present late =>
      rename_i task name entry size timeout hook request deadline
      have waits : world.due? task = some deadline := by
        simp only [due?, own]
      simp only [World.step, expire_of_due waits late, own, expirePull, present, after_append,
        failing_eq]
      rfl
  | abortsSchedule own here =>
      simp only [World.step, abort, own]
      exact (stopping_eq here).symm
  | abortsFlush there works here =>
      rename_i own _ _
      cases own with
      | scheduledFlush | drain =>
          cases works
          simp only [World.step, abort, there, after_append, dropping_eq here]
          rfl
      | schedule | pull | handBack | refresh => cases works
  | aborts there unscheduled absent =>
      rename_i own
      cases own with
      | schedule name => exact absurd rfl (unscheduled name)
      | scheduledFlush | drain =>
          simp only [World.step, abort, there, onQueue, absent _ rfl]
          rfl
      | pull | handBack | refresh =>
          simp only [World.step, abort, there]
          rfl

/-- Only its own event breaks a recorder or mends it. -/
theorem Transition.keepsRecorder (transition : Transition world event changes)
    (keeps : ∀ works, event ≠ .setRecorder works) :
    ∀ change ∈ changes, ∀ works, change ≠ .setRecorder works := by
  cases transition with
  | setsRecorder works => exact absurd rfl (keeps works)
  | handles present handling | responds own present handling =>
      cases handling <;> simp
  | relinquishes draw own present idle =>
      rcases idle with ⟨_, _, rfl⟩ | ⟨_, _, rfl⟩ <;> simp
  | _ => simp

end World

end PullConsumer
