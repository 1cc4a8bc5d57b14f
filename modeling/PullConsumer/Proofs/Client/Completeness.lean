import PullConsumer.Proofs.Client.Transitions

/-! # Every event goes through a transition

An event that goes through no transition finds what it is about missing or not ready, and changes
nothing (`World.decided`). With that a property of all steps is one of all transitions
(`World.step_cases`).
-/

namespace PullConsumer.World

variable {world : World} {event : Event}

/-- An event goes through a transition, or it changes nothing. -/
def Decided (world : World) (event : Event) : Prop :=
  (∃ changes, Transition world event changes) ∨ (world.step event).1 = world

/-- Every answer to a pull is handled in one of the ways of `Handling`. -/
theorem exists_handling (world : World) (entry : PullEntry) (request : PullRequest)
    (response : PullResponse) (hook : Option HookId) :
    ∃ changes deliveries, Handling world entry request response hook changes deliveries := by
  by_cases rejects : response.code = .brokerReject
  · exact ⟨_, _, .rejected rejects⟩
  by_cases failed : response.code = .acquireLockFailed
  · exact ⟨_, _, .unlocked failed⟩
  by_cases nothing : response.messages = []
  · exact ⟨_, _, .empty rejects failed nothing⟩
  cases serves : entry.queue with
  | none => exact ⟨_, _, .dropped rejects failed nothing serves⟩
  | some name =>
      cases here : world.queues.get? name with
      | none => exact ⟨_, _, .missing rejects failed nothing serves here⟩
      | some queue => exact ⟨_, _, .delivered rejects failed nothing serves here⟩

/-- The tasks of schedules proceed through transitions or not at all. -/
theorem decided_schedule {task : TaskId} {name : QueueId} (draw : Nat)
    (own : world.tasks.get? task = some (.schedule name)) :
    world.Decided (.proceed task draw) := by
  have still : world.proceedSchedule task name draw = world →
      world.Decided (.proceed task draw) := by
    intro same
    exact .inr (by simp only [step, proceed, own, same])
  cases here : world.queues.get? name with
  | none => exact still (by simp only [proceedSchedule, here])
  | some queue =>
      cases schedule : queue.schedule with
      | entering failures => exact .inl ⟨_, .entersWait draw own here schedule⟩
      | idle due =>
          by_cases notified : queue.signal.listener = .notified
          · exact .inl ⟨_, .hears draw own here schedule notified⟩
          · exact still (by simp only [proceedSchedule, here, schedule, notified, if_false])
      | flushing failures flush =>
          cases filed : (world.results.get? flush).bind flushEnd? with
          | none => exact still (by simp only [proceedSchedule, here, schedule, filed])
          | some ended => exact .inl ⟨_, .notes draw own here schedule filed⟩
      | absent | backingOff | stopped =>
          exact still (by simp only [proceedSchedule, here, schedule])

/-- Pull cycles proceed through transitions or not at all. -/
theorem decided_pull {task : TaskId} {name : EntryId} {size timeout : Nat} {hook : Option HookId}
    (draw : Nat) (own : world.tasks.get? task = some (.pull name size timeout hook none)) :
    world.Decided (.proceed task draw) := by
  cases present : world.entries.get? name with
  | none => exact .inr (by simp only [step, proceed, own, beginPull, present])
  | some entry =>
      cases destroyed : entry.destroyed with
      | true => exact .inl ⟨_, .refuses draw own present (.inl ⟨destroyed, rfl⟩)⟩
      | false =>
          by_cases unserved : entry.queue = none
          · exact .inl ⟨_, .refuses draw own present (.inr ⟨destroyed, unserved, rfl⟩)⟩
          cases expired : entry.assignment.isExpired (world.epoch + world.clock) with
          | true => exact .inl ⟨_, .lapses draw own present destroyed unserved expired⟩
          | false =>
              obtain ⟨registry, group, found⟩ : ∃ registry group,
                  world.registry.lookUp entry.assignment.brokerGroup = (registry, group) :=
                    ⟨_, _, rfl⟩
              cases available : registry.isAvailable group with
              | false =>
                  exact .inl ⟨_, .skips draw own present destroyed unserved expired found available⟩
              | true =>
                  exact .inl ⟨_, .pulls draw own present destroyed unserved expired found
                    available rfl⟩

/-- Hand-backs proceed through transitions or not at all. -/
theorem decided_handBack {task : TaskId} {name : EntryId} {kind : HandBack} (draw : Nat)
    (own : world.tasks.get? task = some (.handBack name kind .begun)) :
    world.Decided (.proceed task draw) := by
  cases present : world.entries.get? name with
  | none => exact .inr (by simp only [step, proceed, own, beginHandBack, present])
  | some entry =>
      by_cases again : kind = .destroy ∧ entry.destroyed = true
      · exact .inl ⟨_, .relinquishes draw own present (.inl ⟨again.1, again.2, rfl⟩)⟩
      cases serves : entry.queue with
      | none => exact .inl ⟨_, .relinquishes draw own present (.inr ⟨again, serves, rfl⟩)⟩
      | some queue => exact .inl ⟨_, .handsBack draw own present again serves⟩

/-- Tasks proceed through transitions or not at all. -/
theorem decided_proceed (world : World) (task : TaskId) (draw : Nat) :
    world.Decided (.proceed task draw) := by
  have still : world.proceed task draw = world → world.Decided (.proceed task draw) := .inr
  cases own : world.tasks.get? task with
  | none => exact still (by simp only [proceed, own])
  | some task =>
      cases task with
      | schedule name => exact decided_schedule draw own
      | scheduledFlush name parent =>
          cases here : world.queues.get? name with
          | none => exact still (by simp only [proceed, own, proceedFlush, here])
          | some queue => exact .inl ⟨_, .flushes draw own rfl here⟩
      | drain name timeout final deadline parent =>
          cases here : world.queues.get? name with
          | none =>
              cases deadline with
              | none => exact still (by simp only [proceed, own, beginDrain, here])
              | some deadline => exact still (by simp only [proceed, own, proceedFlush, here])
          | some queue =>
              cases deadline with
              | some deadline => exact .inl ⟨_, .flushes draw own rfl here⟩
              | none =>
                  cases final with
                  | false => exact .inl ⟨_, .drains draw own here⟩
                  | true =>
                      cases closed : queue.destroyed with
                      | true => exact .inl ⟨_, .closesTwice draw own here closed⟩
                      | false => exact .inl ⟨_, .closes draw own here closed rfl⟩
      | pull name size timeout hook calling =>
          cases calling with
          | none => exact decided_pull draw own
          | some calling => exact still (by simp only [proceed, own])
      | handBack name kind stage =>
          cases stage with
          | begun => exact decided_handBack draw own
          | releasing => exact still (by simp only [proceed, own])
          | draining drain =>
              cases filed : world.results.get? drain with
              | none => exact still (by simp only [proceed, own, concludeHandBack, filed])
              | some result =>
                  cases present : world.entries.get? name with
                  | none => exact still (by simp only [proceed, own,
                      concludeHandBack, filed, present])
                  | some entry => exact .inl ⟨_, .concludes draw own filed present⟩
      | refresh subject group calling =>
          cases calling with
          | false => exact .inl ⟨_, .refreshes draw own⟩
          | true => exact still (by simp only [proceed, own])

/-- Flushes and refreshes are answered through transitions or not at all. -/
theorem decided_answer (world : World) (task : TaskId) (answer : Answer Unit) :
    world.Decided (.answer task answer) := by
  have still : world.answer task answer = world → world.Decided (.answer task answer) := .inr
  cases own : world.tasks.get? task with
  | none => exact still (by simp only [World.answer, own])
  | some task =>
      cases runs : task.flushOf? with
      | some name =>
          cases here : world.queues.get? name with
          | some queue => exact .inl ⟨_, .answersFlush answer own runs here⟩
          | none =>
              cases task with
              | scheduledFlush name parent =>
                  cases runs
                  exact still (by simp only [World.answer, own, answerFlush, here])
              | drain name timeout final deadline parent =>
                  cases deadline with
                  | none => cases runs
                  | some deadline =>
                      cases runs
                      exact still (by simp only [World.answer, own, answerFlush, here])
              | schedule | pull | handBack | refresh => cases runs
      | none =>
          cases task with
          | schedule | pull => exact still (by simp only [World.answer, own])
          | scheduledFlush => cases runs
          | drain name timeout final deadline parent =>
              cases deadline with
              | none => exact still (by simp only [World.answer, own])
              | some deadline => cases runs
          | handBack name kind stage =>
              cases stage with
              | begun | draining => exact still (by simp only [World.answer, own])
              | releasing => exact .inl ⟨_, .answersRelease answer own⟩
          | refresh subject group calling =>
              cases calling with
              | false => exact still (by simp only [World.answer, own])
              | true => exact .inl ⟨_, .answersRefresh answer own⟩

/-- Pulls are answered through transitions or not at all. -/
theorem decided_respond (world : World) (task : TaskId) (answer : Answer PullResponse) :
    world.Decided (.respond task answer) := by
  have still : world.respond task answer = world → world.Decided (.respond task answer) := .inr
  cases own : world.tasks.get? task with
  | none => exact still (by simp only [respond, own])
  | some task =>
      cases task with
      | pull name size timeout hook calling =>
          cases calling with
          | none => exact still (by simp only [respond, own])
          | some calling =>
              cases present : world.entries.get? name with
              | none => exact still (by simp only [respond, own, present])
              | some entry =>
                  cases answer with
                  | value response =>
                      obtain ⟨changes, deliveries, handles⟩ :=
                        exists_handling world entry calling.1 response hook
                      exact .inl ⟨_, .responds own present handles⟩
                  | failed fault => exact .inl ⟨_, .respondsFailed fault own present⟩
                  | panicked text => exact .inl ⟨_, .respondsPanicked text own present⟩
      | schedule | scheduledFlush | drain | handBack | refresh =>
          exact still (by simp only [respond, own])

/-- Deadlines pass through transitions or not at all. -/
theorem decided_expire (world : World) (task : TaskId) :
    world.Decided (.expire task) := by
  have still : world.expire task = world → world.Decided (.expire task) := .inr
  cases waits : world.due? task with
  | none => exact still (by simp only [expire, waits, Option.all_none, if_true])
  | some due =>
      by_cases early : world.clock < due
      · exact still (by simp only [expire, waits, Option.all_some, early, decide_true, if_true])
      have late : due ≤ world.clock := Nat.not_lt.mp early
      have expires := expire_of_due waits late
      cases own : world.tasks.get? task with
      | none => exact still (by simp only [expires, own])
      | some target =>
          cases target with
          | schedule name =>
              cases here : world.queues.get? name with
              | none => exact still (by simp only [expires, own, expireSchedule, here])
              | some queue =>
                  have waits : queue.scheduleDue? = some due := by
                    simpa only [due?, own, here, Option.bind_some] using waits
                  cases schedule : queue.schedule with
                  | idle _ =>
                      simp only [AckQueue.scheduleDue?, schedule, Option.some.injEq] at waits
                      exact .inl ⟨_, .elapses own here schedule (waits ▸ late)⟩
                  | backingOff failures _ =>
                      simp only [AckQueue.scheduleDue?, schedule, Option.some.injEq] at waits
                      exact .inl ⟨_, .retries own here schedule (waits ▸ late)⟩
                  | absent | entering | flushing | stopped =>
                      simp only [AckQueue.scheduleDue?, schedule, reduceCtorEq] at waits
          | drain name timeout final deadline parent =>
              cases deadline with
              | none => exact still (by simp only [expires, own])
              | some deadline =>
                  simp only [due?, own, Option.some.injEq] at waits
                  cases here : world.queues.get? name with
                  | none => exact still (by simp only [expires, own, expireDrain, here])
                  | some queue => exact .inl ⟨_, .timesOut own here (waits ▸ late)⟩
          | pull name size timeout hook calling =>
              cases calling with
              | none => exact still (by simp only [expires, own])
              | some calling =>
                  obtain ⟨request, deadline⟩ := calling
                  simp only [due?, own, Option.some.injEq] at waits
                  cases present : world.entries.get? name with
                  | none => exact still (by simp only [expires, own, expirePull, present])
                  | some entry => exact .inl ⟨_, .overruns own present (waits ▸ late)⟩
          | scheduledFlush | handBack | refresh => exact still (by simp only [expires, own])

/-- Tasks are cancelled through transitions or not at all. -/
theorem decided_abort (world : World) (task : TaskId) :
    world.Decided (.abort task) := by
  cases own : world.tasks.get? task with
  | none => exact .inr (by simp only [step, abort, own])
  | some target =>
      by_cases unscheduled : ∀ name, target ≠ .schedule name
      · by_cases absent : ∀ name, target.worksOn? = some name → world.queues.get? name = none
        · exact .inl ⟨_, .aborts own unscheduled absent⟩
        · obtain ⟨name, there⟩ := Classical.not_forall.mp absent
          obtain ⟨works, there⟩ := Classical.not_imp.mp there
          obtain ⟨queue, here⟩ := Option.ne_none_iff_exists'.mp there
          exact .inl ⟨_, .abortsFlush own works here⟩
      · obtain ⟨name, scheduled⟩ := Classical.not_forall.mp unscheduled
        obtain rfl := Classical.not_not.mp scheduled
        cases here : world.queues.get? name with
        | none => exact .inr (by simp only [step, abort, own, stopSchedule, here])
        | some queue => exact .inl ⟨_, .abortsSchedule own here⟩

/-- **Completeness.** Every event goes through one of the transitions. -/
theorem decided (world : World) (event : Event) :
    world.Decided event := by
  have still : (world.step event).1 = world → world.Decided event := .inr
  cases event with
  | openQueue assignment => exact .inl ⟨_, .opensQueue assignment⟩
  | startQueue name =>
      cases here : world.queues.get? name with
      | none => exact still (by simp only [step, startQueue, here])
      | some queue =>
          cases started : queue.isStarted with
          | true => exact .inl ⟨_, .startsTwice here started⟩
          | false => exact .inl ⟨_, .starts here started⟩
  | discardQueue name =>
      cases here : world.queues.get? name with
      | none => exact still (by simp only [step, stopSchedule, here])
      | some queue => exact .inl ⟨_, .discards here⟩
  | register name message =>
      cases here : world.queues.get? name with
      | none => exact still (by simp only [step, here])
      | some queue => exact .inl ⟨_, .registers message here⟩
  | resolve name offset verdict =>
      cases here : world.queues.get? name with
      | none => exact still (by simp only [step, World.resolve, onQueue, here])
      | some queue => exact .inl ⟨_, .resolves offset verdict here⟩
  | receive name subject accepts hook messages =>
      cases here : world.queues.get? name with
      | none => exact still (by simp only [step, World.receive, here])
      | some queue => exact .inl ⟨_, .receives subject accepts hook messages here⟩
  | openEntry assignment consume =>
      cases blank : assignment.isPlaceholder with
      | true => exact .inl ⟨_, .opensPlaceholder consume blank⟩
      | false => exact .inl ⟨_, .opensEntry consume blank rfl⟩
  | handle name request response hook =>
      cases present : world.entries.get? name with
      | none => exact still (by simp only [step, present])
      | some entry =>
          obtain ⟨changes, deliveries, handles⟩ := exists_handling world entry request response hook
          exact .inl ⟨_, .handles present handles⟩
  | markFailed name group =>
      cases present : world.entries.get? name with
      | none => exact still (by simp only [step, present])
      | some entry => exact .inl ⟨_, .fails group present⟩
  | acknowledge delivery =>
      cases hooked : delivery.hook with
      | some hook => exact .inl ⟨_, .hooks hooked⟩
      | none =>
          cases here : world.queues.get? delivery.queue with
          | none => exact still (by simp only [step, hooked, World.resolve, onQueue, here])
          | some queue => exact .inl ⟨_, .acknowledges hooked here⟩
  | lookUpGroup name => exact .inl ⟨_, .looksUp name⟩
  | groupAvailable name => exact .inl ⟨_, .announces name⟩
  | setGroup group available => exact .inl ⟨_, .sets group available⟩
  | removeGroup name => exact .inl ⟨_, .removes name⟩
  | applySettings settings => exact .inl ⟨_, .applies settings⟩
  | setRecorder works => exact .inl ⟨_, .setsRecorder works⟩
  | begin procedure => exact .inl ⟨_, .begins procedure⟩
  | proceed task draw => exact decided_proceed world task draw
  | answer task answer => exact decided_answer world task answer
  | respond task answer => exact decided_respond world task answer
  | expire task => exact decided_expire world task
  | abort task => exact decided_abort world task
  | tick milliseconds => exact .inl ⟨_, .passes milliseconds⟩

/-- What holds after no change and after the changes of every transition holds after a step. -/
theorem step_cases (holds : World → Prop) (still : holds world)
    (moves : ∀ changes, Transition world event changes → holds (world.after changes)) :
    holds (world.step event).1 := by
  rcases world.decided event with ⟨changes, transition⟩ | same
  · rw [transition.step]
    exact moves changes transition
  · rw [same]
    exact still

end PullConsumer.World
