/-! # The send lock

At most one flush transmits at a time. Flushes that find the lock taken wait in line, and a release
hands the lock to the first of the line.
-/

namespace PullConsumer

/-- The name of a running task. -/
abbrev TaskId := Nat

/-- A fair lock: its holder and the tasks in line for it, first come first. -/
structure SendLock where
  holder : Option TaskId
  line : List TaskId
deriving DecidableEq

namespace SendLock

/-- The lock that nobody holds. -/
def free : SendLock := ⟨none, []⟩

/-- Asks for the lock: takes it if it is free, or else joins the line. -/
def request (lock : SendLock) (task : TaskId) : SendLock :=
  match lock.holder with
  | none => { lock with holder := some task }
  | some _ => { lock with line := lock.line ++ [task] }

/-- Gives the lock to the first of the line. -/
def release (lock : SendLock) : SendLock :=
  match lock.line with
  | [] => free
  | next :: rest => ⟨some next, rest⟩

/-- Leaves the line. -/
def withdraw (lock : SendLock) (task : TaskId) : SendLock :=
  { lock with line := lock.line.filter (· ≠ task) }

/-- A task that leaves altogether: out of the line, and the lock passed on if the task held it. -/
def drop (lock : SendLock) (task : TaskId) : SendLock :=
  if lock.holder = some task then (lock.withdraw task).release else lock.withdraw task

end SendLock

end PullConsumer
