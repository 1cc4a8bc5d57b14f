/-! # Health of a broker group

Availability is a hint that routing reads before each pull. The failures are counted since the
group was last made available.
-/

namespace PullConsumer

/-- The health of one broker group. -/
structure GroupHealth where
  name : String
  available : Bool
  failures : UInt32
deriving DecidableEq

namespace GroupHealth

/-- A group as it is first announced. -/
def fresh (name : String) : GroupHealth := ⟨name, true, 0⟩

/-- Sets the availability; a group that becomes available starts without failures. -/
def setAvailable (group : GroupHealth) (available : Bool) : GroupHealth :=
  { group with
    available := available
    failures := if available then 0 else group.failures }

/-- Counts a failure and takes the group out of use. -/
def markFailed (group : GroupHealth) : GroupHealth :=
  { group with available := false, failures := group.failures + 1 }

/-- The written form: the name and the availability. -/
def label (group : GroupHealth) : String :=
  group.name ++ if group.available then "[available]" else "[unavailable]"

end GroupHealth

end PullConsumer
