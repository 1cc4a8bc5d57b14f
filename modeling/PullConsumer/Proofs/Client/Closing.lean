import PullConsumer.Proofs.Client.Handouts

/-! # After the beginning of a teardown

A teardown marks its queue as closed before anything else. Whatever happens from then on, the queue
only loses entries from its front, and the client hands out none of its messages, begins no second
teardown of it and starts no schedule for it (`World.run_closed`).
-/

namespace PullConsumer.World

variable {world : World} {name : QueueId} {queue : AckQueue}

/-- What a client still does about a queue that is closed. -/
structure Refuses (world : World) (name : QueueId) : Prop where
  /-- A message is refused, and the queue stays as it was. -/
  registers : ∀ message,
    (world.step (.register name message)).2 = .registered (.error .entryDestroyed) ∧
      (world.step (.register name message)).1.queues.get? name = world.queues.get? name
  /-- The intake of a batch delivers nothing. -/
  receives : ∀ subject accepts hook messages,
    (world.step (.receive name subject accepts hook messages)).2 = .delivered []
  /-- The interpretation of an answer delivers nothing. -/
  handles : ∀ entryName entry request response hook, world.entries.get? entryName = some entry →
    entry.queue = some name →
    (world.step (.handle entryName request response hook)).2 = .delivered []
  /-- A pull cycle in progress never ends with messages, whatever its broker answers. -/
  pulls : ∀ task entryName entry size timeout hook calling event deliveries,
    world.tasks.get? task = some (.pull entryName size timeout hook calling) →
    world.entries.get? entryName = some entry → entry.queue = some name →
    (world.step event).1.results.get? task = some (.delivered deliveries) → deliveries = []
  /-- A further teardown ends at once and leaves all queues, entries and other tasks alone. -/
  closes : ∀ task timeout parent draw,
    world.tasks.get? task = some (.drain name timeout true none parent) →
    (world.step (.proceed task draw)).1.results =
        world.results.set task (.outcome .drained) ∧
      (world.step (.proceed task draw)).1.tasks = world.tasks.erase task ∧
      (world.step (.proceed task draw)).1.nextTask = world.nextTask ∧
      (world.step (.proceed task draw)).1.queues = world.queues ∧
      (world.step (.proceed task draw)).1.entries = world.entries
  /-- The start of the schedule starts no task. -/
  starts : (world.step (.startQueue name)).1.tasks = world.tasks ∧
    (world.step (.startQueue name)).1.nextTask = world.nextTask ∧
    (world.step (.startQueue name)).1.queues = world.queues

/-! ### Operations on a closed queue -/

/-- A pull cycle for a closed queue delivers nothing. -/
theorem delivers_nothing (filed : world.Filed) (here : world.queues.get? name = some queue)
    (closed : queue.destroyed = true) {task : TaskId} {own : Task} {entryName : EntryId}
    {entry : PullEntry} {size timeout : Nat} {hook : Option HookId}
    {calling : Option (PullRequest × Nat)}
    (pulls : own = .pull entryName size timeout hook calling)
    (there : world.tasks.get? task = some own) (present : world.entries.get? entryName = some entry)
    (serves : entry.queue = some name) {event : Event} {deliveries : List Delivery}
    (ended : (world.step event).1.results.get? task = some (.delivered deliveries)) :
    deliveries = [] := by
  subst pulls
  have unfinished : world.results.get? task ≠ some (.delivered deliveries) := fun finished =>
    absurd (there.symm.trans (filed task _ finished).2) (Option.some_ne_none _)
  rcases step_deliversNothing world event with undelivered |
    ⟨actor, other, request, response, hook, responds⟩
  · exact (undelivered.results task deliveries ended).resolve_right unfinished
  · rw [responds.delivers.2, Table.get?_set] at ended
    split at ended
    · rename_i same
      subst same
      obtain ⟨_, _, _, _, _, own, found⟩ := responds
      cases there.symm.trans own
      cases present.symm.trans found
      have kept : (world.record (.responded actor (.value response))).queues.get? name =
          some queue :=
        here
      have nothing := handle_of_destroyed serves kept closed request response hook
      rw [nothing] at ended
      exact (TaskResult.delivered.inj (Option.some.inj ended)).symm
    · exact absurd ended unfinished

/-- A second teardown finds its queue closed. -/
theorem beginDrain_of_destroyed (here : world.queues.get? name = some queue)
    (closed : queue.destroyed = true) (task : TaskId) (timeout : Nat) (parent : Option TaskId) :
    world.beginDrain task name timeout true parent =
      (world.log (.queueAlreadyDestroyed queue.assignment.subject)).finish task
        (.outcome .drained) := by
  simp only [beginDrain, here, closed, Bool.and_self, if_true]

/-- The schedule of a closed queue is not started; a notice says so. -/
theorem startQueue_of_destroyed (here : world.queues.get? name = some queue)
    (closed : queue.destroyed = true) :
    world.startQueue name = world.log (.queueAlreadyStarted queue.assignment.subject) := by
  have started : queue.isStarted = true := by
    rw [AckQueue.isStarted, closed, Bool.or_true]
  simp only [startQueue, here, started, if_true]

/-- **A closed queue is refused everything.** -/
theorem refuses (filed : world.Filed) (here : world.queues.get? name = some queue)
    (closed : queue.destroyed = true) : world.Refuses name where
  registers message := by
    simp only [step, here, AckQueue.register_of_destroyed closed, setQueue, Table.get?_set, if_true,
      and_self]
  receives subject accepts hook messages := by
    have nothing := (receive_delivers here subject accepts hook messages).2
    rw [AckQueue.receive_of_destroyed closed] at nothing
    exact congrArg Reply.delivered nothing
  handles entryName entry request response hook present serves := by
    simp only [step, present, handle_of_destroyed serves here closed]
  pulls task entryName entry size timeout hook calling event deliveries there present serves
      ended :=
    delivers_nothing filed here closed rfl there present serves ended
  closes task timeout parent draw there := by
    have concludes : (world.step (.proceed task draw)).1 =
        (world.log (.queueAlreadyDestroyed queue.assignment.subject)).finish task
          (.outcome .drained) := by
      simp only [step, proceed, there, beginDrain_of_destroyed here closed]
    rw [concludes]
    simp only [frame_finish, finish_rest]
    exact ⟨rfl, rfl, rfl, rfl, rfl⟩
  starts := by
    have logs : (world.step (.startQueue name)).1 =
        world.log (.queueAlreadyStarted queue.assignment.subject) :=
      startQueue_of_destroyed here closed
    rw [logs]
    exact ⟨rfl, rfl, rfl⟩

/-! ### Runs -/

/-- A queue that is closed dwindles along every run. -/
theorem Proper.dwindles (proper : world.Proper) (events : List Event)
    (here : world.queues.get? name = some queue) (closed : queue.destroyed = true) :
    ∃ next, (world.run events).queues.get? name = some next ∧ queue.Dwindles next :=
  proper.carries (fun stride dwindles => dwindles.trans (stride.dwindles dwindles.destroyed)) events
    here (.refl closed)

/-- A teardown closes a queue while a pull is under way. -/
def closedMeanwhile : List Event :=
  [.openEntry (.ofNames "s" "g" "p" "b" "c" .shared) (.ofNames "s" "g" "c"),
    .begin (.pull 0 10 100 none), .proceed 1 0, .begin (.close 0 100), .proceed 2 0]

variable (epoch : Nat) (settings : Settings) (events : List Event)

/-- **Nothing is registered or delivered once a teardown has begun.** From the moment at which a
queue is closed, whatever happens, it registers nothing and only loses entries from its front, its
schedule stays stopped, and the client refuses it everything. -/
theorem run_closed (here : ((initial epoch settings).run events).queues.get? name = some queue)
    (closed : queue.destroyed = true) (later : List Event) : ∃ next,
      ((initial epoch settings).run (events ++ later)).queues.get? name = some next ∧
        queue.Dwindles next ∧ (next.schedule = .absent ∨ next.schedule = .stopped) ∧
        ((initial epoch settings).run (events ++ later)).Refuses name := by
  have proper := run_proper epoch settings events
  obtain ⟨next, there, dwindles⟩ := proper.dwindles later here closed
  rw [← run_append] at there
  exact ⟨next, there, dwindles, run_shut epoch settings _ there dwindles.destroyed,
    refuses (run_filed epoch settings _) there dwindles.destroyed⟩

/-- The pull is answered with a message after the queue was closed. -/
theorem run_closed_closedMeanwhile :
    let answer : Event := .respond 1
      (.value ⟨.success, ⟨"b", 0⟩, [(default : Message).setKey .pullOffset "1"]⟩)
    (∃ calling, ((initial 0 .standard).run closedMeanwhile).tasks.get? 1 =
        some (.pull 0 10 100 none (some calling))) ∧
      ((initial 0 .standard).run (closedMeanwhile ++ [answer])).Refuses 0 ∧
      ((initial 0 .standard).run (closedMeanwhile ++ [answer])).results.get? 1 =
        some (.delivered []) := by
  obtain ⟨queue, here, closed⟩ : ∃ queue,
      ((initial 0 .standard).run closedMeanwhile).queues.get? 0 = some queue ∧
        queue.destroyed = true := ⟨_, rfl, rfl⟩
  obtain ⟨next, there, dwindles, stopped, refuses⟩ :=
    run_closed 0 .standard closedMeanwhile here closed [.respond 1
      (.value ⟨.success, ⟨"b", 0⟩, [(default : Message).setKey .pullOffset "1"]⟩)]
  exact ⟨⟨_, rfl⟩, refuses, rfl⟩

end PullConsumer.World
