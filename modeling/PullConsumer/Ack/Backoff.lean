/-! # Backoff between failed flushes

The delay grows linearly with the number of failures up to a cap, and a random share of up to half
of it is taken off.
-/

namespace PullConsumer

/-- The settings of a backoff, in milliseconds; 0 stands for the usual value. -/
structure Backoff where
  base : UInt64
  cap : UInt64
deriving DecidableEq

namespace Backoff

/-- The step of the delay per failure. -/
def step (backoff : Backoff) : Nat :=
  if backoff.base = 0 then 200 else backoff.base.toNat

/-- The greatest delay. -/
def limit (backoff : Backoff) : Nat :=
  if backoff.cap = 0 then 5000 else backoff.cap.toNat

/-- A product that stops at the greatest 64-bit number. -/
def saturatedProduct (left right : Nat) : Nat :=
  min (left * right) 18446744073709551615

/-- The longest delay before attempt number `attempt`, counted from 0. -/
def longest (backoff : Backoff) (attempt : Nat) : Nat :=
  min (saturatedProduct backoff.step (attempt + 1)) backoff.limit

/-- The delay that a random number selects, from half of the longest delay up to all of it. -/
def delay (backoff : Backoff) (attempt draw : Nat) : Nat :=
  backoff.longest attempt / 2 +
    draw % (backoff.longest attempt - backoff.longest attempt / 2 + 1)

/-- Every draw falls into the jitter range. -/
theorem delay_bounds (backoff : Backoff) (attempt draw : Nat) :
    backoff.longest attempt / 2 ≤ backoff.delay attempt draw ∧
      backoff.delay attempt draw ≤ backoff.longest attempt := by
  unfold delay
  have small := Nat.mod_lt draw
    (show 0 < backoff.longest attempt - backoff.longest attempt / 2 + 1 from Nat.succ_pos _)
  have half := Nat.div_le_self (backoff.longest attempt) 2
  constructor <;> omega

end Backoff

end PullConsumer
