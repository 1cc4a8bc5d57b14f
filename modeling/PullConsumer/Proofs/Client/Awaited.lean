import PullConsumer.Proofs.Client.Pairing

/-! # The flushes that the schedules wait for

A schedule that waits for the end of a flush does not wait in vain (`World.Awaiting`). The flush is
in progress, or its end is on file, or it was cancelled, and no other task takes its result.
-/

namespace PullConsumer

/-- The end of a flush is read back from its result. -/
theorem World.flushEnd?_resultOf (ended : FlushEnd) :
    World.flushEnd? (World.resultOf ended) = some ended := by
  cases ended <;> rfl

namespace World

variable {world : World} {name : QueueId} {flush task : TaskId} {event : Event}

/-- The end of a flush that is on file. -/
def ended? (world : World) (flush : TaskId) : Option FlushEnd :=
  (world.results.get? flush).bind flushEnd?

/-- A flush of the schedule of a queue is in progress, or it has come to an end. -/
def Awaited (world : World) (name : QueueId) (flush : TaskId) : Prop :=
  (∃ loop, world.tasks.get? flush = some (.scheduledFlush name loop)) ∨
    (∃ ended, world.ended? flush = some ended) ∨ world.results.get? flush = some .cancelled

/-- A flush that has ended, or was cancelled, is awaited through its result. -/
theorem awaited_of_result {result : TaskResult} (found : world.results.get? flush = some result)
    (ends : (∃ ended, result = resultOf ended) ∨ result = .cancelled) :
    world.Awaited name flush := by
  rcases ends with ⟨ended, rfl⟩ | rfl
  · refine .inr (.inl ⟨ended, ?_⟩)
    rw [ended?, found, Option.bind_some, flushEnd?_resultOf]
  · exact .inr (.inr found)

/-- A flush in progress belongs to the schedule that waits for it. -/
theorem Awaited.eq_of_launched {other : QueueId} {loop : TaskId}
    (awaited : world.Awaited name flush) (filed : world.Filed)
    (own : world.tasks.get? flush = some (.scheduledFlush other loop)) : name = other := by
  have unfinished : ∀ {result}, world.results.get? flush ≠ some result := fun found =>
    Option.some_ne_none _ (own.symm.trans (filed flush _ found).2)
  rcases awaited with ⟨_, alike⟩ | ⟨ended, ends⟩ | cancelled
  · cases own.symm.trans alike
    rfl
  · obtain ⟨result, found, _⟩ := Option.bind_eq_some_iff.mp ends
    exact absurd found unfinished
  · exact absurd cancelled unfinished

/-- A step of a flush leaves its end on file if it ends the flush. -/
theorem adopt_awaited {loop : TaskId}
    (own : world.tasks.get? flush = some (.scheduledFlush name loop)) (step : FlushStep) :
    (world.adopt flush name step).Awaited name flush := by
  cases ends : step.ended with
  | none =>
      refine .inl ⟨loop, ?_⟩
      rw [(frame_adopt world flush name step).2.1, ends, if_pos rfl]
      exact own
  | some ended =>
      refine awaited_of_result ?_ (.inl ⟨ended, rfl⟩)
      rw [adopt_results world flush name ends, Table.get?_set, if_pos rfl]

/-- A flush goes on by itself, by an answer or by force. -/
theorem acted_awaited {loop : TaskId}
    (own : world.tasks.get? flush = some (.scheduledFlush name loop))
    (acts : event.actor? = some flush) : (world.step event).1.Awaited name flush := by
  have still : world.Awaited name flush := .inl ⟨loop, own⟩
  cases event with
  | proceed task draw =>
      cases acts
      simp only [step, proceed, own, proceedFlush]
      split
      · exact adopt_awaited own _
      · exact still
  | answer task answer =>
      cases acts
      simp only [step, World.answer, own, answerFlush]
      split
      · exact adopt_awaited own _
      · exact still
  | respond task answer =>
      cases acts
      simp only [step, respond, own]
      exact still
  | expire task =>
      cases acts
      simp only [step, expire, own, ite_self]
      exact still
  | abort task =>
      cases acts
      simp only [step, abort, own]
      exact awaited_of_result (get?_finish _ flush _).2 (.inr rfl)
  | _ => cases acts

/-- No schedule waits in vain, and no two wait for the same flush. -/
structure Awaiting (world : World) : Prop where
  awaited : ∀ name queue failures flush, world.queues.get? name = some queue →
    queue.schedule = .flushing failures flush → world.Awaited name flush
  distinct : ∀ first second queue other failures count flush,
    world.queues.get? first = some queue → queue.schedule = .flushing failures flush →
    world.queues.get? second = some other → other.schedule = .flushing count flush →
    first = second

/-- The end of a flush is on file until its schedule takes it. -/
theorem Awaiting.keeps (awaiting : world.Awaiting) (regular : world.Regular)
    {queue next : AckQueue} {failures count : Nat}
    (here : world.queues.get? name = some queue) (waits : queue.schedule = .flushing failures flush)
    (there : (world.step event).1.queues.get? name = some next)
    (flushing : next.schedule = .flushing count flush) {result : TaskResult}
    (found : world.results.get? flush = some result) :
    (world.step event).1.results.get? flush = some result := by
  have proper := regular.proper
  have absent := (regular.filed flush result found).2
  have done := proper.doneBy event
  rcases (done.ended flush (regular.filed flush result found).1 absent).2 with same | gone
  · exact same.trans found
  · obtain ⟨taker, other, acts, own, collects⟩ := (proper.doneBy event).untaken _ _ found gone
    cases other with
    | scheduledFlush | drain | pull | refresh => cases collects
    | schedule target =>
        obtain ⟨⟨held, count, present, alike⟩, after, none, place, entering⟩ :=
          schedule_takes own acts found gone
        cases awaiting.distinct _ _ _ _ _ _ _ here waits present alike
        cases there.symm.trans place
        cases flushing.symm.trans entering
    | handBack entry kind stage =>
        cases handBack_takes proper own acts found gone
        exact absurd own ((regular.paired.apart name queue failures flush here waits).2 _ _ _)

/-- An event leaves every schedule that flushes with a flush, or with the result of one. -/
theorem Awaiting.step (awaiting : world.Awaiting) (regular : world.Regular) (event : Event) :
    (world.step event).1.Awaiting := by
  have proper := regular.proper
  have later := regular.step event
  have awaited : ∀ name next failures flush, (world.step event).1.queues.get? name = some next →
      next.schedule = .flushing failures flush → (world.step event).1.Awaited name flush := by
    intro name next failures flush there flushing
    rcases proper.awaited_flush there flushing with ⟨queue, count, here, waits⟩ | launched
    · rcases awaiting.awaited name queue count flush here waits with
        ⟨loop, own⟩ | ⟨ended, filed⟩ | cancelled
      · by_cases acts : event.actor? = some flush
        · exact acted_awaited own acts
        · exact .inl ⟨loop, proper.undisturbed own nofun acts⟩
      · obtain ⟨result, found, ends⟩ := Option.bind_eq_some_iff.mp filed
        refine .inr (.inl ⟨ended, ?_⟩)
        rw [ended?, awaiting.keeps regular here waits there flushing found]
        exact ends
      · exact .inr (.inr (awaiting.keeps regular here waits there flushing cancelled))
    · exact .inl launched
  refine ⟨awaited, fun first second queue other failures count flush here waits there also => ?_⟩
  rcases proper.awaited_flush here waits with ⟨_, _, present, before⟩ | ⟨_, launched⟩
  · rcases proper.awaited_flush there also with ⟨_, _, listed, earlier⟩ | ⟨_, launched⟩
    · exact awaiting.distinct _ _ _ _ _ _ _ present before listed earlier
    · exact (awaited _ _ _ _ here waits).eq_of_launched later.filed launched
  · exact ((awaited _ _ _ _ there also).eq_of_launched later.filed launched).symm

/-- A run leaves every schedule that flushes with a flush, or with the result of one. -/
theorem Awaiting.run (awaiting : world.Awaiting) (regular : world.Regular) (events : List Event) :
    (world.run events).Awaiting := by
  induction events generalizing world with
  | nil => exact awaiting
  | cons event rest ih => exact ih (awaiting.step regular event) (regular.step event)

/-- After every run, each schedule that waits for a flush has one of its own. -/
theorem run_awaiting (epoch : Nat) (settings : Settings) (events : List Event) :
    ((initial epoch settings).run events).Awaiting := by
  have start : (initial epoch settings).Awaiting := by
    refine ⟨fun _ queue _ _ here => ?_, fun _ _ queue _ _ _ _ here => ?_⟩
    · exact absurd here.symm (Option.some_ne_none queue)
    · exact absurd here.symm (Option.some_ne_none queue)
  exact start.run (run_regular epoch settings []) events

end World

end PullConsumer
