/-! # The signal for an early flush

The signal counts resolved entries that are still queued. From the threshold on every resolution
wakes the listener, or leaves one permit for the next one. A wake-up that its listener did not use
is passed on as a permit.
-/

namespace PullConsumer

/-- Who listens for the signal. -/
inductive Listener
  | absent
  | waiting
  | notified
deriving DecidableEq

/-- A counter of resolved entries with a wake-up at a threshold. -/
structure AckSignal where
  threshold : Nat
  resolved : Nat
  permit : Bool
  listener : Listener
deriving DecidableEq

namespace AckSignal

/-- A signal that nothing has raised; a threshold of 0 counts as 1. -/
def ofBatchSize (size : Nat) : AckSignal := ⟨max size 1, 0, false, .absent⟩

/-- Wakes the waiting listener, or stores a permit. -/
def notify (signal : AckSignal) : AckSignal :=
  match signal.listener with
  | .waiting => { signal with listener := .notified }
  | _ => { signal with permit := true }

/-- Counts one resolution and notifies from the threshold on. -/
def raise (signal : AckSignal) : AckSignal :=
  let counted := { signal with resolved := signal.resolved + 1 }
  if counted.threshold ≤ counted.resolved then counted.notify else counted

/-- Forgets entries that left the queue. -/
def reset (signal : AckSignal) (flushed : Nat) : AckSignal :=
  { signal with resolved := signal.resolved - flushed }

/-- Begins to listen; a stored permit notifies at once. -/
def listen (signal : AckSignal) : AckSignal :=
  if signal.permit then { signal with permit := false, listener := .notified }
  else { signal with listener := .waiting }

/-- Uses the wake-up that was received. -/
def consume (signal : AckSignal) : AckSignal :=
  { signal with listener := .absent }

/-- Stops listening; a wake-up that was received is kept as a permit. -/
def leave (signal : AckSignal) : AckSignal :=
  { signal with
    permit := signal.permit || signal.listener == .notified
    listener := .absent }

/-- Whether a change of the signal wakes its listener. -/
def wakes (before after : AckSignal) : Bool :=
  before.listener == .waiting && after.listener == .notified

end AckSignal

end PullConsumer
