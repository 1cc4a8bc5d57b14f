import PullConsumer.Assignment

/-! # Ack requests -/

namespace PullConsumer

/-- The acknowledgment of all offsets from `first` to `last`. -/
structure AckRequest where
  subject : String
  group : String
  partition : String
  consumer : String
  strategy : Strategy
  version : Int32
  broadcast : Bool
  first : Int
  last : Int
deriving DecidableEq

namespace AckRequest

/-- A request about a range of offsets, attributed to an assignment. -/
def ofRange (assignment : Assignment) (first last : Int) : AckRequest where
  subject := assignment.subject
  group := assignment.group
  partition := assignment.partition
  consumer := assignment.consumer
  strategy := assignment.strategy
  version := assignment.version
  broadcast := assignment.broadcast
  first := first
  last := last

/-- The number of offsets in the range. -/
def length (request : AckRequest) : Nat :=
  (request.last - request.first + 1).toNat

end AckRequest

end PullConsumer
