import PullConsumer.ShapeFault

/-! # JSON values

An object lists its members in the order in which they are visited.
-/

namespace PullConsumer.Json

/-- A JSON value. A number that is no whole number of 64 bits is kept as its text. -/
inductive Value
  | null
  | bool (value : Bool)
  | integer (value : Int)
  | float (text : String)
  | string (value : String)
  | array (items : List Value)
  | object (members : List (String × Value))

instance : Inhabited Value := ⟨.null⟩

/-- What a value is, as a decoder reports it. -/
def Value.found : Value → Found
  | .null => .null
  | .bool value => .bool value
  | .integer value => .integer value
  | .float text => .float text
  | .string value => .string value
  | .array _ => .sequence
  | .object _ => .map

end PullConsumer.Json
