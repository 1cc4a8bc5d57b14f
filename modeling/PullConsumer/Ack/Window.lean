/-! # The ack window and the outcomes of a flush -/

namespace PullConsumer

/-- The highest offset acknowledged and the highest offset registered; -1 means none yet. -/
structure AckWindow where
  min : Int
  max : Int
deriving DecidableEq

/-- The window of a queue without messages. -/
def AckWindow.initial : AckWindow := ⟨-1, -1⟩

/-- How a bounded flush ended. -/
inductive DrainOutcome
  /-- Nothing is left in the queue. -/
  | drained
  /-- All that was resolved is sent; so many entries wait for the application. -/
  | outstanding (entries : Nat)
  /-- A transmission failed; so many entries stay queued. -/
  | failed (entries : Nat)
  /-- The deadline came before the end of the flush. -/
  | timedOut
deriving DecidableEq

/-- The written form of an outcome. -/
def DrainOutcome.label : DrainOutcome → String
  | .drained => "Drained"
  | .outstanding entries => s!"Outstanding({entries})"
  | .failed entries => s!"Failed({entries})"
  | .timedOut => "TimedOut"

end PullConsumer
