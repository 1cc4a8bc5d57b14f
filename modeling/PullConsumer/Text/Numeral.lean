/-! # Decimal numerals of message attributes

A numeral is an optional sign and one or more ASCII digits. `signed?` reads both signs and keeps to
64 bits with sign; `unsigned?` reads a plus only and keeps to 32 bits.
-/

namespace PullConsumer.Text.Numeral

/-- The value of an ASCII digit. -/
def digit? (c : Char) : Option Nat :=
  if '0' ≤ c ∧ c ≤ '9' then some (c.toNat - '0'.toNat) else none

/-- Reads further digits after those that make `acc`. -/
def digitsFrom (acc : Nat) : List Char → Option Nat
  | [] => some acc
  | c :: rest => (digit? c).bind fun d => digitsFrom (acc * 10 + d) rest

/-- Reads one or more digits. -/
def digits? : List Char → Option Nat
  | [] => none
  | c :: rest => digitsFrom 0 (c :: rest)

/-- Reads digits with an optional plus or minus in front. -/
def integer? : List Char → Option Int
  | '+' :: rest => (digits? rest).map Int.ofNat
  | '-' :: rest => (digits? rest).map fun n => -(n : Int)
  | cs => (digits? cs).map Int.ofNat

/-- Reads digits with an optional plus in front. -/
def natural? : List Char → Option Nat
  | '+' :: rest => digits? rest
  | cs => digits? cs

/-- A numeral with a value from -2^63 up to, and without, 2^63. -/
def signed? (text : String) : Option Int :=
  (integer? text.toList).filter fun n => -9223372036854775808 ≤ n ∧ n < 9223372036854775808

/-- A numeral without minus with a value below 2^32. -/
def unsigned? (text : String) : Option Nat :=
  (natural? text.toList).filter fun n => n < 4294967296

end PullConsumer.Text.Numeral
