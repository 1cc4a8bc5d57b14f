/-! # Numerals in a base

Digits of a base up to sixteen, in ASCII and with letters of either case.
-/

namespace PullConsumer.Text.Radix

/-- The value of a digit in base sixteen. -/
def hexDigit? (c : Char) : Option Nat :=
  if '0' ≤ c ∧ c ≤ '9' then some (c.toNat - '0'.toNat)
  else if 'a' ≤ c ∧ c ≤ 'f' then some (c.toNat - 'a'.toNat + 10)
  else if 'A' ≤ c ∧ c ≤ 'F' then some (c.toNat - 'A'.toNat + 10)
  else none

def digit? (base : Nat) (c : Char) : Option Nat :=
  (hexDigit? c).filter fun value => value < base

/-- The value of digits after those that make `value`. -/
def digitsFrom (base value : Nat) : List Char → Option Nat
  | [] => some value
  | c :: rest => (digit? base c).bind fun next => digitsFrom base (value * base + next) rest

/-- The value of one or more digits. -/
def digits? (base : Nat) (text : List Char) : Option Nat :=
  if text.isEmpty then none else digitsFrom base 0 text

end PullConsumer.Text.Radix
