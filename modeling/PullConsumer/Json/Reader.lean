import PullConsumer.Decimal.Scaled
import PullConsumer.Dictionary
import PullConsumer.Json.Value
import PullConsumer.Text.Numeral
import PullConsumer.Text.Radix

/-! # Reading JSON

`Value.ofText?` reads the value that fills a text, with blanks around it. The members of an object
come in key order, and of two members with one key the later one counts. Every step reads from the
start of a text and returns what it has read and the rest.
-/

namespace PullConsumer.Json

/-- Leaves out the blanks that may stand between the parts of a value. -/
def skipBlanks (text : List Char) : List Char :=
  text.dropWhile fun c => c == ' ' || c == '\n' || c == '\t' || c == '\r'

/-! ## Numbers -/

/-- The parts of a number. -/
structure NumberParts where
  negative : Bool
  whole : List Nat
  /-- The digits after the point, if there is one. -/
  fraction : Option (List Nat)
  power : Option Int

/-- The digits at the start of a text. -/
def takeDigits : List Char → List Nat × List Char
  | [] => ([], [])
  | c :: rest =>
    match Text.Numeral.digit? c with
    | some digit => (digit :: (takeDigits rest).1, (takeDigits rest).2)
    | none => ([], c :: rest)

/-- One or more digits at the start of a text. -/
def takeSomeDigits? (text : List Char) : Option (List Nat × List Char) :=
  let (digits, rest) := takeDigits text
  if digits.isEmpty then none else some (digits, rest)

/-- The digits before the point; only a zero of its own may begin with zero. -/
def takeWhole? (text : List Char) : Option (List Nat × List Char) :=
  (takeSomeDigits? text).filter fun found => found.1.head? ≠ some 0 || found.1.length == 1

/-- A point and the digits after it, if there is one. -/
def takeFraction? : List Char → Option (Option (List Nat) × List Char)
  | '.' :: rest => (takeSomeDigits? rest).map fun found => (some found.1, found.2)
  | text => some (none, text)

/-- A sign, if there is one: whether it is a minus. -/
def takeSign : List Char → Bool × List Char
  | '-' :: rest => (true, rest)
  | '+' :: rest => (false, rest)
  | text => (false, text)

def numberOf (digits : List Nat) : Nat :=
  digits.foldl (fun value digit => value * 10 + digit) 0

/-- An exponent, if there is one. -/
def takePower? : List Char → Option (Option Int × List Char)
  | [] => some (none, [])
  | c :: rest =>
    if c == 'e' || c == 'E' then
      let (negative, unsigned) := takeSign rest
      (takeSomeDigits? unsigned).map fun found =>
        let size : Int := numberOf found.1
        (some (if negative then -size else size), found.2)
    else some (none, c :: rest)

def takeNumber? (text : List Char) : Option (NumberParts × List Char) := do
  let (negative, unsigned) :=
    match text with
    | '-' :: rest => (true, rest)
    | _ => (false, text)
  let (whole, afterWhole) ← takeWhole? unsigned
  let (fraction, afterFraction) ← takeFraction? afterWhole
  let (power, rest) ← takePower? afterFraction
  return (⟨negative, whole, fraction, power⟩, rest)

/-- Digits after those of a number as long as it fits into 64 bits, and how many are left. -/
def addDigits (value : Nat) : List Nat → Nat × Nat
  | [] => (value, 0)
  | digit :: rest =>
    if value * 10 + digit < UInt64.size then addDigits (value * 10 + digit) rest
    else (value, rest.length + 1)

/-- The decimal number of a float, by the digits that fit into 64 bits. -/
def NumberParts.scientific (parts : NumberParts) : Decimal.Scientific :=
  let (whole, skipped) := addDigits 0 parts.whole
  let fraction := parts.fraction.getD []
  let (digits, ignored) := addDigits whole fraction
  ⟨digits, (skipped : Int) - ((fraction.length : Int) - ignored) + parts.power.getD 0⟩

/-- The number as a whole number of 64 bits. A zero with a minus is none. -/
def NumberParts.integer? (parts : NumberParts) : Option Int :=
  let size := numberOf parts.whole
  if parts.fraction.isSome || parts.power.isSome then none
  else if parts.negative then
    if size = 0 ∨ 9223372036854775808 < size then none else some (-(size : Int))
  else if size < UInt64.size then some size
  else none

/-- The value of a number; `none` if it is too large. -/
def NumberParts.value? (parts : NumberParts) : Option Value :=
  match parts.integer? with
  | some integer => some (.integer integer)
  | none => (Decimal.Binary64.scaled parts.scientific).map fun number =>
      .float ((if parts.negative then "-" else "") ++ number.compactText)

/-! ## Strings -/

/-- Four hexadecimal digits. -/
def takeUnit? : List Char → Option (Nat × List Char)
  | a :: b :: c :: d :: rest =>
    (Text.Radix.digits? 16 [a, b, c, d]).map fun unit => (unit, rest)
  | _ => none

/-- Whether a number is the first or the second half of a pair. -/
def isHalf (first : Nat) (unit : Nat) : Bool := first ≤ unit && unit < first + 1024

/-- A character by its number: one of sixteen bits, or a pair of halves. -/
def takeNumbered? (text : List Char) : Option (Char × List Char) := do
  let (unit, rest) ← takeUnit? text
  if isHalf 0xDC00 unit then none
  else if isHalf 0xD800 unit then
    match rest with
    | '\\' :: 'u' :: more =>
      let (second, after) ← takeUnit? more
      if isHalf 0xDC00 second then
        return (Char.ofNat (0x10000 + (unit - 0xD800) * 1024 + (second - 0xDC00)), after)
      else none
    | _ => none
  else return (Char.ofNat unit, rest)

def takeEscape? : List Char → Option (Char × List Char)
  | 'u' :: rest => takeNumbered? rest
  | '"' :: rest => some ('"', rest)
  | '\\' :: rest => some ('\\', rest)
  | '/' :: rest => some ('/', rest)
  | 'b' :: rest => some ('\x08', rest)
  | 'f' :: rest => some ('\x0c', rest)
  | 'n' :: rest => some ('\n', rest)
  | 'r' :: rest => some ('\r', rest)
  | 't' :: rest => some ('\t', rest)
  | _ => none

/-- The characters of a string up to its closing quote. Each takes at least one place, so the
length of the text is fuel enough. -/
def takeString? : Nat → List Char → Option (List Char × List Char)
  | 0, _ => none
  | _ + 1, [] => none
  | _ + 1, '"' :: rest => some ([], rest)
  | fuel + 1, '\\' :: rest => do
    let (c, after) ← takeEscape? rest
    let (more, final) ← takeString? fuel after
    return (c :: more, final)
  | fuel + 1, c :: rest =>
    if c.toNat < 32 then none
    else (takeString? fuel rest).map fun found => (c :: found.1, found.2)

/-! ## Values -/

/-- The string that begins after an opening quote. -/
def takeText? (text : List Char) : Option (String × List Char) :=
  (takeString? text.length text).map fun found => (String.ofList found.1, found.2)

/-- The key of a member and the colon after it. -/
def takeKey? (text : List Char) : Option (String × List Char) :=
  match skipBlanks text with
  | '"' :: rest => do
    let (key, after) ← takeText? rest
    match skipBlanks after with
    | ':' :: more => return (key, more)
    | _ => none
  | _ => none

mutual

def takeValue? : Nat → List Char → Option (Value × List Char)
  | 0, _ => none
  | fuel + 1, text =>
    match skipBlanks text with
    | 'n' :: 'u' :: 'l' :: 'l' :: rest => some (.null, rest)
    | 't' :: 'r' :: 'u' :: 'e' :: rest => some (.bool true, rest)
    | 'f' :: 'a' :: 'l' :: 's' :: 'e' :: rest => some (.bool false, rest)
    | '"' :: rest => (takeText? rest).map fun found => (.string found.1, found.2)
    | '[' :: rest =>
      match skipBlanks rest with
      | ']' :: after => some (.array [], after)
      | _ => (takeItems? fuel rest).map fun found => (.array found.1, found.2)
    | '\x7b' :: rest =>
      match skipBlanks rest with
      | '\x7d' :: after => some (.object [], after)
      | _ => (takeMembers? fuel rest).map fun found =>
          (.object (Dictionary.ofList found.1).entries, found.2)
    | number => do
      let (parts, rest) ← takeNumber? number
      return (← parts.value?, rest)

/-- Reads one or more items up to the end of an array. -/
def takeItems? : Nat → List Char → Option (List Value × List Char)
  | 0, _ => none
  | fuel + 1, text => do
    let (item, rest) ← takeValue? fuel text
    match skipBlanks rest with
    | ',' :: more =>
      (takeItems? fuel more).map fun found => (item :: found.1, found.2)
    | ']' :: after => return ([item], after)
    | _ => none

/-- Reads one or more members up to the end of an object. -/
def takeMembers? : Nat → List Char → Option (List (String × Value) × List Char)
  | 0, _ => none
  | fuel + 1, text => do
    let (key, afterKey) ← takeKey? text
    let (item, rest) ← takeValue? fuel afterKey
    match skipBlanks rest with
    | ',' :: more =>
      (takeMembers? fuel more).map fun found => ((key, item) :: found.1, found.2)
    | '\x7d' :: after => return ([(key, item)], after)
    | _ => none

end

/-- Reads the value that fills a text. Each character opens at most one collection, which takes two
steps, so twice the length is fuel enough. -/
def Value.ofText? (text : String) : Option Value := do
  let chars := text.toList
  let (value, rest) ← takeValue? (2 * chars.length + 2) chars
  if (skipBlanks rest).isEmpty then return value else none

end PullConsumer.Json
