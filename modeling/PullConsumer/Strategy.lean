import PullConsumer.Fault

/-! # Consumption strategies

How the members of a consumer group share a partition. Names are lower case when written and are
read in any ASCII case.
-/

namespace PullConsumer.Strategy

/-- Exclusive and ordered consumption hold a broker lock on the partition. -/
def requiresLock : Strategy → Bool
  | .exclusive | .ordered => true
  | .shared | .broadcast => false

/-- The written name. -/
def name : Strategy → String
  | .exclusive => "exclusive"
  | .shared => "shared"
  | .broadcast => "broadcast"
  | .ordered => "ordered"

/-- All strategies, in the order of their declaration. -/
def all : List Strategy := [.exclusive, .shared, .broadcast, .ordered]

/-- The strategy with a given written name. -/
def named? (text : String) : Option Strategy :=
  all.find? fun strategy => strategy.name = text

/-- ASCII capitals become small letters; all other characters stay. -/
def foldCase (text : String) : String :=
  String.ofList (text.toList.map Char.toLower)

/-- Reads a name in any ASCII case. -/
def parse (text : String) : Except MessageFault Strategy :=
  match named? (foldCase text) with
  | some strategy => .ok strategy
  | none => .error (.unknownStrategy (foldCase text))

/-- A name reads back as its strategy. -/
theorem named?_name (strategy : Strategy) : named? strategy.name = some strategy := by
  cases strategy <;> decide

end PullConsumer.Strategy
