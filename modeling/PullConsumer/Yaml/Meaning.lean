import PullConsumer.Decimal.Binary64
import PullConsumer.ShapeFault
import PullConsumer.Text.Radix
import PullConsumer.Yaml.Token

/-! # The meaning of scalars

A plain scalar without a tag is nothing, a truth value, a number or a text, whichever its spelling
fits first. A tag of the core names decides instead of the spelling.
-/

namespace PullConsumer.Yaml

/-- The tags that name a meaning. -/
inductive CoreTag
  | null
  | bool
  | int
  | float

namespace CoreTag

/-- The written tag. -/
def text : CoreTag → String
  | .null => "tag:yaml.org,2002:null"
  | .bool => "tag:yaml.org,2002:bool"
  | .int => "tag:yaml.org,2002:int"
  | .float => "tag:yaml.org,2002:float"

/-- The meaning that a written tag names. -/
def ofText? (tag : String) : Option CoreTag :=
  [null, bool, int, float].find? fun core => core.text = tag

def expected : CoreTag → String
  | .null => "null"
  | .bool => "a boolean"
  | .int => "an integer"
  | .float => "a float"

end CoreTag

/-- The spellings of nothing, besides the empty one. -/
def isNull (text : String) : Bool :=
  text == "null" || text == "Null" || text == "NULL" || text == "~"

/-- The spellings of truth values. -/
def bool? (text : String) : Option Bool :=
  if text = "true" ∨ text = "True" ∨ text = "TRUE" then some true
  else if text = "false" ∨ text = "False" ∨ text = "FALSE" then some false
  else none

/-! ## Integers -/

/-- Digits with a zero in front are no number. -/
def isPadded : List Char → Bool
  | '0' :: rest => !rest.isEmpty && rest.all Char.isDigit
  | _ => false

/-- The value of digits in base ten, or in the base that two characters before them say. -/
def magnitude? : List Char → Option Nat
  | '0' :: 'x' :: rest => Text.Radix.digits? 16 rest
  | '0' :: 'o' :: rest => Text.Radix.digits? 8 rest
  | '0' :: 'b' :: rest => Text.Radix.digits? 2 rest
  | text => if isPadded text then none else Text.Radix.digits? 10 text

/-- A number without minus. -/
def natural? : List Char → Option Nat
  | '+' :: rest => magnitude? rest
  | text => magnitude? text

/-- The value after a minus. -/
def negated? : List Char → Option Nat
  | '-' :: rest => magnitude? rest
  | _ => none

/-- An unsigned number of 64 bits. -/
def uint64? (text : String) : Option UInt64 :=
  ((natural? text.toList).filter fun value => value < UInt64.size).map UInt64.ofNat

/-- An integer of up to 128 bits. -/
def integer? (text : String) : Option Found :=
  match natural? text.toList, negated? text.toList with
  | some value, _ =>
    if value < UInt64.size then some (.integer value)
    else if value < Nat.pow 2 128 then some (.wideInteger value)
    else none
  | none, some value =>
    if value ≤ Nat.pow 2 63 then some (.integer (-(value : Int)))
    else if value ≤ Nat.pow 2 127 then some (.wideInteger (-(value : Int)))
    else none
  | none, none => none

/-! ## Numbers with a fraction -/

def exponent? : List Char → Option Int
  | '+' :: rest => (Text.Radix.digits? 10 rest).map Int.ofNat
  | '-' :: rest => (Text.Radix.digits? 10 rest).map fun value => -(value : Int)
  | text => (Text.Radix.digits? 10 text).map Int.ofNat

/-- Digits with a point and an exponent, both optional. -/
def decimal? (text : List Char) : Option Decimal.Scientific :=
  let whole := text.takeWhile Char.isDigit
  let afterWhole := text.dropWhile Char.isDigit
  let (fraction, rest) :=
    match afterWhole with
    | '.' :: more => (more.takeWhile Char.isDigit, more.dropWhile Char.isDigit)
    | _ => ([], afterWhole)
  (Text.Radix.digits? 10 (whole ++ fraction)).bind fun digits =>
    match rest with
    | [] => some ⟨digits, -(fraction.length : Int)⟩
    | c :: power =>
      if c == 'e' || c == 'E' then
        (exponent? power).map fun exponent => ⟨digits, exponent - fraction.length⟩
      else none

/-- The text of a decimal number as a number of double precision; `none` if it is too large. -/
def finiteText? (number : Decimal.Scientific) : Option String :=
  let size := number.exponent + (toString number.digits).length
  if number.digits = 0 ∨ size < -400 then some "0.0"
  else if 400 < size then none
  else (Decimal.Binary64.nearest number).map Decimal.Binary64.positionalText

/-- A decimal number with an optional minus. -/
def signedText? : List Char → Option String
  | '-' :: rest => ((decimal? rest).bind finiteText?).map ("-" ++ ·)
  | text => (decimal? text).bind finiteText?

/-- The spellings of infinity. -/
def isInfinity (text : String) : Bool := text == ".inf" || text == ".Inf" || text == ".INF"

def isNegativeInfinity (text : String) : Bool :=
  text == "-.inf" || text == "-.Inf" || text == "-.INF"

/-- The spellings of the number that is none. -/
def isNotANumber (text : String) : Bool := text == ".nan" || text == ".NaN" || text == ".NAN"

/-- A number of double precision. -/
def float? (text : String) : Option Found :=
  let unsigned :=
    match text.toList with
    | '+' :: rest => if rest.head? = some '-' then [] else rest
    | all => all
  if isInfinity (String.ofList unsigned) then some (.float "inf")
  else if isNegativeInfinity text then some (.float "-inf")
  else if isNotANumber text then some (.float "NaN")
  else (signedText? unsigned).map Found.float

/-! ## Scalars -/

/-- What a plain scalar without a tag is. -/
def plainFound (text : String) : Found :=
  if text = "" ∨ isNull text then .unit
  else match bool? text with
    | some value => .bool value
    | none =>
      match integer? text with
      | some found => found
      | none =>
        let digits := text.toList.dropWhile fun c => c == '+' || c == '-'
        match if isPadded digits then none else float? text with
        | some found => found
        | none => .string text

/-- What a scalar with a core tag is; `none` if its spelling does not fit. -/
def CoreTag.found? (core : CoreTag) (text : String) : Option Found :=
  match core with
  | .null => if isNull text then some .unit else none
  | .bool => (bool? text).map Found.bool
  | .int => integer? text
  | .float => float? text

/-- The fault of a scalar that stands where something else is expected. -/
def scalarFault (tag : Option String) (text : String) (style : ScalarStyle) (expected : String) :
    ShapeFault :=
  match tag with
  | none =>
    .invalidType (if style = .plain then plainFound text else .string text) expected
  | some tag =>
    match CoreTag.ofText? tag with
    | some core =>
      match core.found? text with
      | some found => .invalidType found expected
      | none => .invalidValue (.string text) core.expected
    | none =>
      if tag.startsWith "!" ∧ style = .plain then .invalidType (plainFound text) expected
      else .invalidType (.string text) expected

end PullConsumer.Yaml
