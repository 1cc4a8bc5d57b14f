import Mathlib.Data.Nat.Digits.Defs
import PullConsumer.Text.Numeral

/-! # What numerals spell

The readers of numerals accept their grammars and compute the positional value of the digits: a
number below 2^32 is read out of a text if and only if the text is an optional plus and digits of
that value (`unsigned?_eq_some_iff`), and a number of 64 bits with sign if and only if the text may
also have a minus, which negates the value (`signed?_eq_some_iff`). What is printed of a number is a
numeral of it, so it reads back (`unsigned?_toString`, `signed?_toString`).
-/

namespace PullConsumer.Text.Numeral

/-- The ASCII digits. -/
def IsDigit (c : Char) : Prop := '0' ≤ c ∧ c ≤ '9'

/-- The value of decimal digits, the most significant one first. -/
def value (digits : List Char) : Nat :=
  .ofDigits 10 (digits.reverse.map fun c => c.toNat - '0'.toNat)

/-- One or more ASCII digits with a value. -/
structure Digits (digits : List Char) (n : Nat) : Prop where
  nonempty : digits ≠ []
  ascii : ∀ c ∈ digits, IsDigit c
  value : value digits = n

/-- An optional plus and digits with a value. -/
def Natural (text : String) (n : Nat) : Prop :=
  ∃ sign digits, (sign = [] ∨ sign = ['+']) ∧ text.toList = sign ++ digits ∧ Digits digits n

/-- An optional plus or minus and digits with a value; a minus negates it. -/
inductive Integer (text : String) : Int → Prop
  | natural {n : Nat} (spelled : Natural text n) : Integer text n
  | negated {digits : List Char} {n : Nat} (spelled : text.toList = '-' :: digits)
      (read : Digits digits n) : Integer text (-n)

variable {cs : List Char} {c : Char} {n acc : Nat} {text : String}

/-- A digit is read exactly if it is one, and as what it stands for. -/
theorem digit?_eq_some_iff : digit? c = some n ↔ IsDigit c ∧ c.toNat - '0'.toNat = n := by
  unfold digit? IsDigit
  split
  · rename_i digit
    exact ⟨fun same => ⟨digit, Option.some.inj same⟩, fun both => congrArg some both.2⟩
  · rename_i other
    exact ⟨nofun, fun both => absurd both.1 other⟩

/-- The first digit counts for as many tens as digits follow. -/
theorem value_cons (c : Char) (rest : List Char) :
    value (c :: rest) = (c.toNat - '0'.toNat) * 10 ^ rest.length + value rest := by
  unfold value
  rw [List.reverse_cons, List.map_append, Nat.ofDigits_append, List.map_singleton,
    Nat.ofDigits_singleton, List.length_map, List.length_reverse]
  ring

/-- Reading on appends the digits to those that were read before. -/
theorem digitsFrom_eq_some_iff :
    digitsFrom acc cs = some n ↔ (∀ c ∈ cs, IsDigit c) ∧ acc * 10 ^ cs.length + value cs = n := by
  induction cs generalizing acc with
  | nil =>
      rw [digitsFrom, Option.some.injEq]
      exact ⟨fun same => ⟨nofun, (Nat.mul_one acc).trans same⟩,
        fun both => (Nat.mul_one acc).symm.trans both.2⟩
  | cons c rest ih =>
      have shifted (d : Nat) : (acc * 10 + d) * 10 ^ rest.length + value rest =
          acc * 10 ^ (c :: rest).length + (d * 10 ^ rest.length + value rest) := by
        rw [List.length_cons]
        ring
      rw [digitsFrom, Option.bind_eq_some_iff, List.forall_mem_cons, value_cons]
      constructor
      · rintro ⟨d, read, further⟩
        obtain ⟨digit, rfl⟩ := digit?_eq_some_iff.mp read
        obtain ⟨digits, total⟩ := ih.mp further
        exact ⟨⟨digit, digits⟩, (shifted _).symm.trans total⟩
      · rintro ⟨⟨digit, digits⟩, total⟩
        exact ⟨_, digit?_eq_some_iff.mpr ⟨digit, rfl⟩, ih.mpr ⟨digits, (shifted _).trans total⟩⟩

/-- Digits are read exactly if the text consists of them. -/
theorem digits?_eq_some_iff : digits? cs = some n ↔ Digits cs n := by
  cases cs with
  | nil => exact ⟨nofun, fun digits => absurd rfl digits.nonempty⟩
  | cons c rest =>
      rw [digits?, digitsFrom_eq_some_iff, Nat.zero_mul, Nat.zero_add]
      exact ⟨fun both => ⟨List.cons_ne_nil c rest, both.1, both.2⟩,
        fun digits => ⟨digits.ascii, digits.value⟩⟩

/-- A natural number is read exactly if the text spells it. -/
theorem natural?_eq_some_iff : natural? text.toList = some n ↔ Natural text n := by
  have unsigned (plain : text.toList.head? ≠ some '+') : digits? text.toList = some n ↔
      Natural text n := by
    rw [digits?_eq_some_iff]
    constructor
    · exact fun digits => ⟨[], text.toList, .inl rfl, rfl, digits⟩
    · rintro ⟨_, digits, rfl | rfl, spelled, read⟩
      · exact spelled ▸ read
      · exact absurd (spelled ▸ rfl) plain
  unfold natural?
  split
  · rename_i rest spelled
    rw [digits?_eq_some_iff]
    constructor
    · exact fun digits => ⟨['+'], rest, .inr rfl, spelled, digits⟩
    · rintro ⟨_, digits, rfl | rfl, same, read⟩
      · cases spelled.symm.trans same
        exact absurd (read.ascii '+' List.mem_cons_self).1 (by decide)
      · cases spelled.symm.trans same
        exact read
  · rename_i plain
    refine unsigned fun starts => ?_
    obtain ⟨rest, spelled⟩ := List.head?_eq_some_iff.mp starts
    exact plain rest spelled

/-- A number is read out of a text if and only if the text spells it and it is below 2^32. -/
theorem unsigned?_eq_some_iff : unsigned? text = some n ↔ Natural text n ∧ n < 2 ^ 32 := by
  rw [unsigned?, Option.filter_eq_some_iff, natural?_eq_some_iff, decide_eq_true_iff]
  rfl

/-- A natural number is spelled without a minus. -/
theorem Natural.head?_ne_minus (spelled : Natural text n) : text.toList.head? ≠ some '-' := by
  obtain ⟨_, digits, rfl | rfl, same, read⟩ := spelled
  · rw [same]
    intro starts
    exact absurd (read.ascii '-' (List.mem_of_head? starts)).1 (by decide)
  · rw [same]
    exact fun starts => absurd (Option.some.inj starts) (by decide)

/-- Without a minus in front integers are read like natural numbers. -/
theorem integer?_of_plain (plain : cs.head? ≠ some '-') :
    integer? cs = (natural? cs).map Int.ofNat := by
  unfold integer? natural?
  split
  · rfl
  · exact absurd rfl plain
  · rename_i unsigned _
    split
    · exact absurd rfl (unsigned _)
    · rfl

/-- The digits after a minus sign are read as the negative of what they spell. -/
theorem integer?_minus (rest : List Char) :
    integer? ('-' :: rest) = (digits? rest).map fun n : Nat => -(n : Int) := by
  rw [integer?]
  cases digits? rest <;> rfl

/-- An integer is read exactly if the text spells it. -/
theorem integer?_eq_some_iff {n : Int} : integer? text.toList = some n ↔ Integer text n := by
  -- The first character tells the two forms apart: neither a plus nor a digit is a minus.
  by_cases minus : text.toList.head? = some '-'
  · obtain ⟨digits, spelled⟩ := List.head?_eq_some_iff.mp minus
    rw [spelled, integer?_minus, Option.map_eq_some_iff]
    constructor
    · rintro ⟨m, read, rfl⟩
      exact .negated spelled (digits?_eq_some_iff.mp read)
    · rintro (natural | ⟨same, read⟩)
      · exact absurd minus natural.head?_ne_minus
      · cases spelled.symm.trans same
        exact ⟨_, digits?_eq_some_iff.mpr read, rfl⟩
  · rw [integer?_of_plain minus, Option.map_eq_some_iff]
    constructor
    · rintro ⟨m, read, rfl⟩
      exact .natural (natural?_eq_some_iff.mp read)
    · rintro (natural | ⟨spelled, _⟩)
      · exact ⟨_, natural?_eq_some_iff.mpr natural, rfl⟩
      · exact absurd (spelled ▸ rfl) minus

/-- A number is read out of a text if and only if the text spells it and it fits 64 bits with
sign. -/
theorem signed?_eq_some_iff {n : Int} :
    signed? text = some n ↔ Integer text n ∧ -2 ^ 63 ≤ n ∧ n < 2 ^ 63 := by
  rw [signed?, Option.filter_eq_some_iff, integer?_eq_some_iff, decide_eq_true_iff]
  rfl

/-! ## Printed numbers -/

/-- Digits read in place have the value that they have one after the other. -/
theorem value_eq_ofDigitChars : value cs = Nat.ofDigitChars 10 cs 0 := by
  induction cs with
  | nil => rfl
  | cons c rest ih =>
      rw [value_cons, Nat.ofDigitChars_cons, Nat.ofDigitChars_eq_ofDigitChars_zero, ih]
      ring

/-- The printed digits of a number spell it. -/
theorem digits_toDigits (n : Nat) : Digits (Nat.toDigits 10 n) n where
  nonempty := Nat.toDigits_ne_nil
  ascii c member := by
    have digit : c.isDigit = true :=
      Nat.isDigit_of_mem_toDigits (by decide) (Nat.le_refl 10) member
    rw [Char.isDigit, Bool.and_eq_true, decide_eq_true_iff, decide_eq_true_iff] at digit
    exact digit
  value := value_eq_ofDigitChars.trans Nat.ofDigitChars_ten_toDigits

theorem natural_toString (n : Nat) : Natural (toString n) n :=
  ⟨[], Nat.toDigits 10 n, .inl rfl, Nat.toList_repr, digits_toDigits n⟩

theorem integer_toString (n : Int) : Integer (toString n) n := by
  cases n with
  | ofNat n => exact .natural (natural_toString n)
  | negSucc n =>
      have spelled : (toString (Int.negSucc n)).toList = '-' :: Nat.toDigits 10 (n + 1) :=
        String.toList_append.trans (congrArg ('-' :: ·) Nat.toList_repr)
      exact .negated spelled (digits_toDigits (n + 1))

theorem unsigned?_toString (n : UInt32) : unsigned? (toString n) = some n.toNat :=
  unsigned?_eq_some_iff.mpr ⟨natural_toString n.toNat, n.toNat_lt⟩

theorem signed?_toString (n : Int64) : signed? (toString n) = some n.toInt :=
  signed?_eq_some_iff.mpr ⟨integer_toString n.toInt, n.le_toInt, n.toInt_lt⟩

end PullConsumer.Text.Numeral
