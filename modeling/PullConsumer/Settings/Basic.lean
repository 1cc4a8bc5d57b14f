import PullConsumer.Dictionary

/-! # Client settings

Durations in milliseconds and sizes, all of 64 bits, with an optional pull timeout per subject.
-/

namespace PullConsumer

/-- What a subject may settle for itself. -/
structure SubjectSettings where
  pullRequestTimeout : Option UInt64
deriving DecidableEq

/-- The settings of a client. -/
structure Settings where
  /-- How long a pull may take for subjects without a timeout of their own. -/
  pullRequestTimeout : UInt64
  /-- The period of the background flush. -/
  ackFlushInterval : UInt64
  /-- How many resolved messages start a flush early. -/
  ackBatchSize : UInt64
  /-- The bound on the flush when a pull entry is torn down. -/
  destroyDrainTimeout : UInt64
  /-- The bound on the flush when a pull entry goes offline. -/
  offlineFlushTimeout : UInt64
  retryBaseBackoff : UInt64
  retryMaxBackoff : UInt64
  subjects : Dictionary SubjectSettings
deriving DecidableEq

namespace Settings

/-- The settings of a client that settles nothing. -/
def standard : Settings where
  pullRequestTimeout := 8000
  ackFlushInterval := 1000
  ackBatchSize := 32
  destroyDrainTimeout := 5000
  offlineFlushTimeout := 3000
  retryBaseBackoff := 200
  retryMaxBackoff := 5000
  subjects := .empty

instance : Inhabited Settings := ⟨standard⟩

/-- The pull timeout of a subject: its own, or else the common one. -/
def timeoutOf (settings : Settings) (subject : String) : Nat :=
  (((settings.subjects.get? subject).bind SubjectSettings.pullRequestTimeout).getD
    settings.pullRequestTimeout).toNat

/-- The period of the background flush, at least one millisecond. -/
def flushInterval (settings : Settings) : Nat :=
  max settings.ackFlushInterval.toNat 1

end Settings

end PullConsumer
