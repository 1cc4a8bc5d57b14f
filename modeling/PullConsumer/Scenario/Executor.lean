import PullConsumer.Scenario.Script

/-! # A fair executor on a virtual clock

The executor chooses one run of a client: tasks go on in the order in which they got a reason to,
each until it has to wait, and the clock moves only when no task can go on. Every change of the
client is an event of `World.step`.
-/

namespace PullConsumer.Scenario

/-- What is to become of the call of a task. -/
inductive Plan
  | now (outcome : Outcome)
  | later (due : Nat) (next : Outcome)
  | never

/-- Why a task set a timer. -/
inductive TimerKind
  /-- For the answer to its call. -/
  | call
  /-- For the end of its wait or its deadline. -/
  | limit
deriving DecidableEq

/-- A task to be woken at a time. -/
structure Timer where
  due : Nat
  task : TaskId
  kind : TimerKind
deriving DecidableEq

/-- A client under execution. -/
structure Executor where
  world : World
  scripts : Scripts
  plans : Table Plan
  /-- Timers in the order in which they were set. -/
  timers : List Timer
  /-- Tasks to be cancelled when their turn comes. -/
  cancelled : List TaskId
  /-- Queues that nobody but running tasks holds any more. -/
  orphans : List QueueId
  /-- The number that selects the jitter of backoffs. -/
  draw : Nat

namespace Executor

/-- A client at its start, under standard scripts. -/
def initial (world : World) : Executor := ⟨world, .standard, [], [], [], [], 0⟩

def happen (executor : Executor) (event : Event) : Executor × Reply :=
  let (world, reply) := executor.world.step event
  ({ executor with world := world }, reply)

/-- Lets an event happen whose reply is of no interest. -/
def apply (executor : Executor) (event : Event) : Executor :=
  (executor.happen event).1

/-- Forgets the timers and the plan of a task. -/
def forget (executor : Executor) (task : TaskId) : Executor :=
  { executor with
    timers := executor.timers.filter fun timer => timer.task ≠ task
    plans := executor.plans.erase task }

/-- Forgets the plan for the current call of a task. -/
def closeCall (executor : Executor) (task : TaskId) : Executor :=
  { executor with
    timers := executor.timers.filter fun timer => !(timer.task == task && timer.kind == .call)
    plans := executor.plans.erase task }

/-- The plan that an outcome makes at the current time. -/
def planOf (executor : Executor) : Outcome → Plan
  | .delay milliseconds next => .later (executor.world.clock + milliseconds) next
  | .hang => .never
  | outcome => .now outcome

def pullRequest? (executor : Executor) (task : TaskId) : Option PullRequest :=
  match executor.world.tasks.get? task with
  | some (.pull _ _ _ _ (some (request, _))) => some request
  | _ => none

def settleCall (executor : Executor) (task : TaskId) (outcome : Outcome) : Executor :=
  let closed := executor.closeCall task
  match closed.pullRequest? task, outcome with
  | some _, .fail fault => closed.apply (.respond task (.failed fault))
  | some _, .panic text => closed.apply (.respond task (.panicked text))
  | some request, .respond code messages none =>
    closed.apply (.respond task (.value ⟨code, request.brokerGroup, messages⟩))
  | some _, .respond code messages (some name) =>
    match closed.happen (.lookUpGroup name) with
    | (found, .group group) => found.apply (.respond task (.value ⟨code, group, messages⟩))
    | (found, _) => found
  | some _, _ => closed
  | none, .fail fault => closed.apply (.answer task (.failed fault))
  | none, .panic text => closed.apply (.answer task (.panicked text))
  | none, _ => closed.apply (.answer task (.value ()))

/-- Sets the timers that a waiting task needs; timers that stand already keep their place. -/
def arm (executor : Executor) (task : TaskId) : Executor :=
  let call : List Timer :=
    match executor.plans.get? task with
    | some (.later due _) => [⟨due, task, .call⟩]
    | _ => []
  let limit : List Timer :=
    match executor.world.due? task with
    | some due => [⟨due, task, .limit⟩]
    | none => []
  let needed := call ++ limit
  let kept := executor.timers.filter fun timer => timer.task ≠ task || needed.contains timer
  { executor with timers := kept ++ needed.filter fun timer => !kept.contains timer }

/-- Whether a task is the schedule of a queue, which sets its timers anew for every wait. -/
def isSchedule (executor : Executor) (task : TaskId) : Bool :=
  match executor.world.tasks.get? task with
  | some (.schedule _) => true
  | _ => false

/-- Decides what is to become of the call that a task has begun. -/
def plan (executor : Executor) (task : TaskId) : Executor :=
  match executor.world.awaited? task, executor.plans.get? task with
  | some collaborator, none =>
    let (outcome, script) := (executor.scripts.get collaborator).take
    { executor with
      scripts := executor.scripts.set collaborator script
      plans := executor.plans.set task (executor.planOf outcome) }
  | _, _ => executor

/-- Ends the wait of a task if its time has come, or else sets its timers. The second part tells
whether the task can go on. -/
def await (executor : Executor) (task : TaskId) : Executor × Bool :=
  if (executor.world.due? task).any (· ≤ executor.world.clock) then
    let expired := (executor.closeCall task).apply (.expire task)
    (if expired.isSchedule task then expired.forget task else expired, true)
  else (executor.arm task, false)

/-- Lets a task make one step; the second part tells whether it can make another at once. -/
def turn (executor : Executor) (task : TaskId) : Executor × Bool :=
  if task ∈ executor.cancelled then
    (({ executor with cancelled := executor.cancelled.erase task }.apply (.abort task)).forget task,
      false)
  else if (executor.world.tasks.get? task).isNone then (executor.forget task, false)
  else if executor.world.canProceed task then
    let cleared := if executor.isSchedule task then executor.forget task else executor
    (cleared.apply (.proceed task executor.draw), true)
  else
    let planned := executor.plan task
    match planned.plans.get? task with
    | some (.now outcome) => (planned.settleCall task outcome, true)
    | some (.later due next) =>
      if due ≤ planned.world.clock then
        ({ planned with plans := planned.plans.set task (planned.planOf next) }, true)
      else planned.await task
    | _ => planned.await task

/-- Lets a task go on until it has to wait. -/
def poll : Nat → Executor → TaskId → Executor
  | 0, executor, _ => executor
  | fuel + 1, executor, task =>
    match executor.turn task with
    | (next, true) => poll fuel next task
    | (next, false) => next

/-- Ends the schedules of queues that nobody holds any more. -/
def releaseOrphans (executor : Executor) : Executor :=
  executor.orphans.foldl (fun executor queue =>
    if executor.world.inUse queue then executor
    else
      { executor with orphans := executor.orphans.erase queue }.apply (.discardQueue queue)) executor

/-- Lets all tasks that are ready go on, in the order in which they got a reason to. -/
def settle : Nat → Executor → Executor
  | 0, executor => executor
  | fuel + 1, executor =>
    match executor.world.ready with
    | [] => executor
    | task :: rest =>
      let taken := { executor with world := { executor.world with ready := rest } }
      settle fuel (poll fuel taken task).releaseOrphans

/-- The time of the next timer. -/
def nextDue? (executor : Executor) : Option Nat :=
  (executor.timers.map Timer.due).min?

/-- Moves the clock and wakes the tasks whose timers are due. -/
def moveTo (executor : Executor) (time : Nat) : Executor :=
  let moved := executor.apply (.tick (time - executor.world.clock))
  let (fired, kept) := moved.timers.partition fun timer => timer.due ≤ time
  { moved with
    timers := kept
    world := fired.foldl (fun world timer => world.wake timer.task) moved.world }

/-- Executes until a task has ended and nothing more can go on at that time. -/
def drive (task : TaskId) : Nat → Executor → Executor
  | 0, executor => executor
  | fuel + 1, executor =>
    let settled := settle fuel executor
    if (settled.world.tasks.get? task).isNone then settled
    else match settled.nextDue? with
      | some due => drive task fuel (settled.moveTo due)
      | none => settled

/-- Executes everything that is due up to a time. -/
def advanceTo (time : Nat) : Nat → Executor → Executor
  | 0, executor => executor
  | fuel + 1, executor =>
    let settled := settle fuel executor
    match settled.nextDue? with
    | some due =>
      if due ≤ time then advanceTo time fuel (settled.moveTo due) else settled.moveTo time
    | none => settled.moveTo time

end Executor

end PullConsumer.Scenario
