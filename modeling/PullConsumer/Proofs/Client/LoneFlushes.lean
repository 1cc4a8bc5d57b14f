import PullConsumer.Proofs.Client.Actors
import PullConsumer.Proofs.Client.Teardown
import PullConsumer.Proofs.Queue.Dispatch

/-! # Flushes of a client by themselves

Where no flush of a queue is under way, and nobody does anything to the queue in the meantime, a
flush that the application asks for comes to its end whatever the broker answers, and its result
tells what became of the queue (`World.run_flushedAlone`).
-/

namespace PullConsumer

namespace LoneFlush

/-- The event that is the next step of the flush. -/
def event (script : Script) (task : TaskId) (flush : LoneFlush) : Event :=
  if flush.queue.awaitsAnswer task then .answer task (answerOf (script flush.rounds))
  else .proceed task 0

/-- The events of the flush over so many steps, or up to its end. -/
def events (script : Script) (task : TaskId) : Nat → LoneFlush → List Event
  | 0, _ => []
  | steps + 1, flush =>
    match flush.ended with
    | some _ => []
    | none => flush.event script task :: events script task steps (flush.next script task)

end LoneFlush

namespace World

variable {world : World} {name : QueueId} {queue : AckQueue} {task : TaskId} {flush : LoneFlush}
  {script : Script}

/-- A task of a client carries out a flush by itself. -/
structure Carries (world : World) (name : QueueId) (task : TaskId) (flush : LoneFlush) : Prop where
  here : world.queues.get? name = some flush.queue
  owns : flush.ended = none → world.flushOf? task = some name
  result : ∀ ended, flush.ended = some ended → world.results.get? task = some (resultOf ended)

/-- A client carries a flush on by the event that its script has for it. -/
theorem Carries.step (carries : world.Carries name task flush) (runs : flush.ended = none) :
    (world.step (flush.event script task)).1.Carries name task (flush.next script task) := by
  obtain ⟨proceeds, answers⟩ := step_of_flushOf? carries.here (carries.owns runs) 0
    (LoneFlush.answerOf (script flush.rounds))
  have adopts : (world.step (flush.event script task)).1 =
      world.adopt task name (flush.step script task) := by
    unfold LoneFlush.event LoneFlush.step
    split
    · exact answers
    · exact proceeds
  obtain ⟨queues, tasks, _⟩ := frame_adopt world task name (flush.step script task)
  rw [adopts]
  refine ⟨?_, fun goes => ?_, fun result ends => ?_⟩
  · rw [queues, Table.get?_set, if_pos rfl]
    rfl
  · have still : (flush.step script task).ended = none := goes
    rw [flushOf?, tasks, if_pos still]
    exact carries.owns runs
  · rw [adopt_results world task name ends, Table.get?_set, if_pos rfl]

/-- A client carries a flush on for any number of steps. -/
theorem Carries.run (carries : world.Carries name task flush) (script : Script) (steps : Nat) :
    (world.run (flush.events script task steps)).Carries name task
      (flush.run script task steps) := by
  induction steps generalizing world flush with
  | zero => exact carries
  | succ steps ih =>
      unfold LoneFlush.events LoneFlush.run
      cases runs : flush.ended with
      | none => exact ih (carries.step runs)
      | some ended => exact carries

/-- The events with which the application asks for a bounded flush and the flush begins. -/
def asking (world : World) (name : QueueId) (timeout : Nat) : List Event :=
  [.begin (.flush name timeout), .proceed world.nextTask 0]

/-- A bounded flush that is asked for begins as a lone flush. -/
theorem carries_asking (here : world.queues.get? name = some queue) (timeout : Nat) :
    (world.run (world.asking name timeout)).Carries name world.nextTask
      (.begin queue world.nextTask) := by
  obtain ⟨queues, tasks, _⟩ := frame_spawn world (.drain name timeout false none none)
  have found : (world.spawn (.drain name timeout false none none)).1.queues.get? name =
      some queue := by
    rw [queues]
    exact here
  have own : (world.spawn (.drain name timeout false none none)).1.tasks.get? world.nextTask =
      some (.drain name timeout false none none) := by
    rw [tasks]
    exact (Table.get?_set ..).trans (if_pos rfl)
  have begins : world.run (world.asking name timeout) =
      (world.spawn (.drain name timeout false none none)).1.beginDrain world.nextTask name timeout
        false none := by
    simp only [asking, World.run, List.foldl_cons, List.foldl_nil, World.step, Procedure.task,
      proceed, own]
  rw [begins]
  simp only [beginDrain, found, Bool.false_and, Bool.false_eq_true, if_false, onQueue]
  refine ⟨(Table.get?_set ..).trans (if_pos rfl), fun _ => ?_,
    fun ended ends => absurd ends.symm (Option.some_ne_none ended)⟩
  rw [flushOf?_of_get? (get?_setTask _ world.nextTask _)]
  rfl

/-! ### Runs -/

/-- The first of three messages is acknowledged, the second rejected, and the third pending. -/
def halfResolved : List Event :=
  let message := fun offset => (default : Message).setKey .pullOffset offset
  [.openQueue (.ofNames "s" "g" "p" "b" "c" .shared), .register 0 (message "1"),
    .register 0 (message "2"), .register 0 (message "3"), .resolve 0 2 (.retry default),
    .resolve 0 1 .complete]

/-- A broker that refuses the first call of a flush. -/
def refusingOnce : Script := fun rounds =>
  if (rounds.flatMap Account.calls).length = 1 then some (.sendBack "down") else none

variable (epoch : Nat) (settings : Settings) (events : List Event)

/-- **A flush without interference.** Whatever state a queue is in, where no flush of it is under
way and nothing else happens to it, a flush ends, whatever calls the broker accepts and lets fail.
It goes through one round more than there are entries at most, its outcome tells what it leaves, and
where no call fails it sends all that is ready. -/
theorem run_flushedAlone
    (here : ((initial epoch settings).run events).queues.get? name = some queue)
    (quiet : ∀ task, queue.flushes.get? task = none) (timeout : Nat) (script : Script) :
    let client := (initial epoch settings).run events
    let flush := LoneFlush.run script client.nextTask
    let start := LoneFlush.begin queue client.nextTask
    (∃ steps outcome, (flush steps start).ended = some (.outcome outcome)) ∧
      ∀ steps outcome, (flush steps start).ended = some (.outcome outcome) →
        queue.FlushedAlone (flush steps start) outcome ∧
        let after := client.run (client.asking name timeout ++
          start.events script client.nextTask steps)
        after.queues.get? name = some (flush steps start).queue ∧
          after.results.get? client.nextTask = some (.outcome outcome) := by
  intro client flush start
  have sound := ((run_proper epoch settings events).tidy name).sound queue here
  have steady : start.Steady queue client.nextTask := .begin sound quiet _
  have begun : start.Unfailed → start.UnfailedStage queue client.nextTask := by
    refine fun _ => .waits (fun phase there => ?_) rfl rfl rfl fun _ => rfl
    cases ((Table.get?_set ..).trans (if_pos rfl)).symm.trans there
    rfl
  have flushed := fun steps ended (ends : (flush steps start).ended = some ended) =>
    (steady.run script steps).flushedAlone ends (steady.stage sound.ordered begun script steps)
  refine ⟨?_, fun steps outcome ends => ?_⟩
  · obtain ⟨steps, ended, ends⟩ := steady.ended script
    obtain ⟨outcome, rfl, _⟩ := flushed steps ended ends
    exact ⟨steps, outcome, ends⟩
  · obtain ⟨_, ⟨⟩, flushedAlone⟩ := flushed steps _ ends
    have asked : (client.run (client.asking name timeout)).Carries name client.nextTask start :=
      carries_asking here timeout
    have carries := asked.run script steps
    refine ⟨flushedAlone, ?_⟩
    dsimp only
    rw [run_append]
    exact ⟨carries.here, carries.result _ ends⟩

/-- After one refusal the flush sends all that is ready, in three rounds, and one entry is left. -/
theorem run_flushedAlone_halfResolved :
    let client := (initial 0 .standard).run halfResolved
    ∃ queue, client.queues.get? 0 = some queue ∧ (∀ task, queue.flushes.get? task = none) ∧
      ((LoneFlush.begin queue 0).run refusingOnce 0 11).rounds.length = 3 ∧
      queue.FlushedAlone ((LoneFlush.begin queue 0).run refusingOnce 0 11) (.outstanding 1) ∧
      (client.run (client.asking 0 100 ++
        (LoneFlush.begin queue 0).events refusingOnce 0 11)).results.get? 0 =
          some (.outcome (.outstanding 1)) := by
  have here : ((initial 0 .standard).run halfResolved).queues.get? 0 = some _ := rfl
  obtain ⟨flushed, _, result⟩ := (run_flushedAlone 0 .standard halfResolved here (fun _ => rfl)
    100 refusingOnce).2 11 (.outstanding 1) rfl
  exact ⟨_, rfl, fun _ => rfl, rfl, flushed, result⟩

end World

end PullConsumer
