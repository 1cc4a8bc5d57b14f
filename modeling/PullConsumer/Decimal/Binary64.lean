/-! # Binary numbers of double precision

A finite positive number of double precision is `mantissa * 2 ^ exponent`. `nearest` rounds a
decimal number to it, a tie going to the even mantissa; `shortest` finds the fewest decimal digits
that round back.
-/

namespace PullConsumer.Decimal

/-- A finite number of double precision without its sign. -/
structure Binary64 where
  mantissa : Nat
  exponent : Int
deriving DecidableEq

/-- A decimal number `digits * 10 ^ exponent`. -/
structure Scientific where
  digits : Nat
  exponent : Int
deriving DecidableEq

/-- A quotient with a positive denominator. -/
structure Ratio where
  num : Nat
  den : Nat

def Ratio.ofPower (factor base : Nat) (exponent : Int) : Ratio :=
  match exponent with
  | .ofNat n => ⟨factor * base.pow n, 1⟩
  | .negSucc n => ⟨factor, base.pow (n + 1)⟩

/-- Whether one quotient is below another. -/
def Ratio.below (left right : Ratio) : Bool :=
  left.num * right.den < right.num * left.den

/-- The quotient rounded to a whole number, a tie to the even side. -/
def Ratio.round (ratio : Ratio) : Nat :=
  let whole := ratio.num / ratio.den
  let rest := 2 * (ratio.num % ratio.den)
  if rest < ratio.den then whole
  else if ratio.den < rest then whole + 1
  else if whole % 2 = 0 then whole else whole + 1

/-- The greatest `n` with `2 ^ n` not above a positive quotient. -/
def Ratio.log2 (ratio : Ratio) : Int :=
  let guess : Int := (ratio.num.log2 : Int) - (ratio.den.log2 : Int)
  if ratio.below (.ofPower 1 2 guess) then guess - 1 else guess

/-- The double-precision number nearest to a quotient; `none` if it is too large. -/
def Binary64.ofRatio (ratio : Ratio) : Option Binary64 :=
  if ratio.num = 0 then some ⟨0, 0⟩
  else
    let exponent := max (ratio.log2 - 52) (-1074)
    let scaled : Ratio :=
      match exponent with
      | .ofNat n => ⟨ratio.num, ratio.den * Nat.pow 2 n⟩
      | .negSucc n => ⟨ratio.num * Nat.pow 2 (n + 1), ratio.den⟩
    let mantissa := scaled.round
    let (mantissa, exponent) :=
      if mantissa = Nat.pow 2 53 then (Nat.pow 2 52, exponent + 1) else (mantissa, exponent)
    if 971 < exponent then none else some ⟨mantissa, exponent⟩

/-- The double-precision number nearest to a decimal number; `none` if it is too large. -/
def Binary64.nearest (number : Scientific) : Option Binary64 :=
  Binary64.ofRatio (.ofPower number.digits 10 number.exponent)

/-- A number as a quotient. -/
def Binary64.ratio (number : Binary64) : Ratio :=
  .ofPower number.mantissa 2 number.exponent

/-- The exponent of the leading decimal digit of a positive quotient. -/
def Ratio.log10 (ratio : Ratio) : Int :=
  if ratio.den ≤ ratio.num then ((Nat.toDigits 10 (ratio.num / ratio.den)).length : Int) - 1
  else -(((List.range 400).findIdx fun n => ratio.den ≤ ratio.num * Nat.pow 10 n) : Int)

/-- Which of two equally near decimal numbers is taken. -/
inductive Tie
  | toEven
  | upward

/-- The decimal numbers around a quotient on the grid of a power of ten, the nearer one first. -/
def Ratio.neighbours (tie : Tie) (ratio : Ratio) (power : Int) : List Scientific :=
  let scaled : Ratio :=
    match power with
    | .ofNat n => ⟨ratio.num, ratio.den * Nat.pow 10 n⟩
    | .negSucc n => ⟨ratio.num * Nat.pow 10 (n + 1), ratio.den⟩
  let low := scaled.num / scaled.den
  let rest := 2 * (scaled.num % scaled.den)
  let lowFirst :=
    rest < scaled.den ||
      (rest == scaled.den && match tie with
        | .toEven => low % 2 == 0
        | .upward => false)
  if lowFirst then [⟨low, power⟩, ⟨low + 1, power⟩] else [⟨low + 1, power⟩, ⟨low, power⟩]

/-- Removes zeros from the end of the digits. -/
def Scientific.trim : Nat → Scientific → Scientific
  | 0, number => number
  | fuel + 1, number =>
    if number.digits ≠ 0 ∧ number.digits % 10 = 0 then
      trim fuel ⟨number.digits / 10, number.exponent + 1⟩
    else number

/-- The fewest digits that round back to a number, and among those the nearest to it. -/
def Binary64.shortest (tie : Tie) (number : Binary64) : Scientific :=
  if number.mantissa = 0 then ⟨0, 0⟩
  else
    let ratio := number.ratio
    let leading := ratio.log10
    let candidates := (List.range 17).flatMap fun (count : Nat) =>
      ratio.neighbours tie (leading - (count : Int))
    match candidates.find? fun candidate => Binary64.nearest candidate = some number with
    | some found => found.trim 20
    | none => ⟨number.mantissa, 0⟩

/-- Digits in positional notation with a point; whole numbers end in a zero after the point. -/
def Scientific.positional (number : Scientific) : String :=
  match number.exponent with
  | .ofNat n => toString (number.digits * Nat.pow 10 n) ++ ".0"
  | .negSucc n =>
    let digits := (toString number.digits).toList
    let padded := List.replicate (n + 2 - digits.length) '0' ++ digits
    let whole := padded.take (padded.length - (n + 1))
    String.ofList (whole ++ '.' :: padded.drop (padded.length - (n + 1)))

/-- Positional notation for moderate sizes, else one digit before the point and an exponent. -/
def Scientific.compact (number : Scientific) : String :=
  let digits := (toString number.digits).toList
  let point := number.exponent + digits.length
  if number.digits = 0 then "0.0"
  else if -5 < point ∧ point ≤ 16 then number.positional
  else
    match digits with
    | first :: [] => s!"{first}e{point - 1}"
    | first :: rest => s!"{first}.{String.ofList rest}e{point - 1}"
    | [] => "0.0"

/-- The compact text of a number; of two equally near texts the one with an even last digit. -/
def Binary64.compactText (number : Binary64) : String :=
  (number.shortest .toEven).compact

/-- The positional text of a number; of two equally near texts the greater one. -/
def Binary64.positionalText (number : Binary64) : String :=
  (number.shortest .upward).positional

end PullConsumer.Decimal
