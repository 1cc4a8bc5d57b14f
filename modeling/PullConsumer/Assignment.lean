import PullConsumer.Strategy
import PullConsumer.Text.Blank

/-! # Assignments

Which partition a consumer pulls, on whose behalf and under which strategy. An assignment with a
blank subject is a placeholder: it is never pulled.
-/

namespace PullConsumer

/-- What all pull entries of one consumer have in common. -/
structure ConsumeParam where
  subject : String
  group : String
  consumer : String
  /-- At-most-once delivery: a redelivered message is dropped. -/
  mostOnce : Bool
  broadcast : Bool
  ordered : Bool
deriving DecidableEq

/-- The usual settings of a consumer. -/
def ConsumeParam.ofNames (subject group consumer : String) : ConsumeParam :=
  ⟨subject, group, consumer, false, false, false⟩

/-- The partition, group and broker group that a pull entry consumes. -/
structure Assignment where
  subject : String
  group : String
  partition : String
  brokerGroup : String
  consumer : String
  strategy : Strategy
  version : Int32
  broadcast : Bool
  ordered : Bool
  partitionSetVersion : Int32
  /-- Milliseconds since the epoch at which the lease ends; 0 means never. -/
  expiry : UInt64
deriving DecidableEq

namespace Assignment

/-- An assignment whose two delivery marks follow from its strategy. -/
def ofNames (subject group partition brokerGroup consumer : String) (strategy : Strategy) :
    Assignment where
  subject := subject
  group := group
  partition := partition
  brokerGroup := brokerGroup
  consumer := consumer
  strategy := strategy
  version := 0
  broadcast := strategy == .broadcast
  ordered := strategy == .ordered
  partitionSetVersion := 0
  expiry := 0

/-- A blank subject marks a placeholder. -/
def isPlaceholder (assignment : Assignment) : Bool :=
  Text.isBlank assignment.subject

/-- Whether the lease of a locked assignment has run out. -/
def isExpired (assignment : Assignment) (now : Nat) : Bool :=
  assignment.strategy.requiresLock && assignment.expiry != 0 && assignment.expiry.toNat ≤ now

end Assignment

end PullConsumer
