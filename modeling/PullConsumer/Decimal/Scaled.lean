import PullConsumer.Decimal.Binary64

/-! # Decimal numbers rounded in steps

A quick way from decimal digits to a number of double precision: the digits and the power of ten
are rounded each, and so is their product or quotient. The result is the nearest number where
digits and power need no rounding, and may be a neighbour of it elsewhere.
-/

namespace PullConsumer.Decimal.Binary64

/-- The product, rounded; `none` if it is too large. -/
def product (left right : Binary64) : Option Binary64 :=
  ofRatio ⟨left.ratio.num * right.ratio.num, left.ratio.den * right.ratio.den⟩

/-- The quotient by a positive number, rounded; `none` if it is too large. -/
def quotient (left right : Binary64) : Option Binary64 :=
  ofRatio ⟨left.ratio.num * right.ratio.den, left.ratio.den * right.ratio.num⟩

/-- The exponent of the greatest power of ten in double precision. -/
def greatestPower : Nat := 308

/-- A power of ten, rounded. -/
def tenTo (exponent : Nat) : Option Binary64 := nearest ⟨1, exponent⟩

/-- Divides some times by the greatest power of ten; nothing is left of a zero to divide. -/
def overGreatest : Nat → Binary64 → Option Binary64
  | 0, number => some number
  | times + 1, number =>
    if number.mantissa = 0 then some number
    else ((tenTo greatestPower).bind number.quotient).bind (overGreatest times)

/-- Rounds a decimal number in steps; `none` if it is too large. A power of ten beyond the greatest
one is divided by in parts. -/
def scaled (number : Scientific) : Option Binary64 :=
  (nearest ⟨number.digits, 0⟩).bind fun digits =>
    match number.exponent with
    | .ofNat exponent =>
      if number.digits = 0 then some digits
      else if exponent ≤ greatestPower then (tenTo exponent).bind digits.product
      else none
    | .negSucc places =>
      (overGreatest (places / greatestPower) digits).bind fun rest =>
        (tenTo (places % greatestPower + 1)).bind rest.quotient

end PullConsumer.Decimal.Binary64
