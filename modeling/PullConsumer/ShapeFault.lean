import PullConsumer.Text.Quoted

/-! # Faults of shape

A decoder that meets a value of the wrong shape names what it found and what it expected. The
wording of both is in one place and is the same for every written form.
-/

namespace PullConsumer

/-- What a decoder found where it expected something else. -/
inductive Found
  | null
  | unit
  | bool (value : Bool)
  | integer (value : Int)
  /-- An integer that needs more than 64 bits. -/
  | wideInteger (value : Int)
  | float (text : String)
  | string (value : String)
  | sequence
  | map
  | unitVariant
deriving DecidableEq

/-- The wording of what was found. -/
def Found.message : Found → String
  | .null => "null"
  | .unit => "unit value"
  | .bool value => s!"boolean `{value}`"
  | .integer value => s!"integer `{value}`"
  | .wideInteger value =>
    if value < 0 then s!"integer `{value}` as i128" else s!"integer `{value}` as u128"
  | .float text => s!"floating point `{text}`"
  | .string value => "string " ++ Text.quoted value
  | .sequence => "sequence"
  | .map => "map"
  | .unitVariant => "unit variant"

/-- What is wrong with the shape of a value. -/
inductive ShapeFault
  | invalidType (found : Found) (expected : String)
  | invalidValue (found : Found) (expected : String)
  | invalidLength (length : Nat) (expected : String)
  | missingField (name : String)
  | duplicateField (name : String)
  | unknownVariant (name : String) (known : List String)
deriving DecidableEq

/-- The names that are allowed, each between backticks. -/
def choiceText : List String → String
  | [] => "there are no variants"
  | [only] => s!"expected `{only}`"
  | [first, second] => s!"expected `{first}` or `{second}`"
  | names => "expected one of " ++ ", ".intercalate (names.map fun name => s!"`{name}`")

/-- The wording of a fault. -/
def ShapeFault.message : ShapeFault → String
  | .invalidType found expected => s!"invalid type: {found.message}, expected {expected}"
  | .invalidValue found expected => s!"invalid value: {found.message}, expected {expected}"
  | .invalidLength length expected => s!"invalid length {length}, expected {expected}"
  | .missingField name => s!"missing field `{name}`"
  | .duplicateField name => s!"duplicate field `{name}`"
  | .unknownVariant name known => s!"unknown variant `{name}`, {choiceText known}"

end PullConsumer
