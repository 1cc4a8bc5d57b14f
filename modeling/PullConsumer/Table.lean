/-! # Tables from numbers to values

A table names its rows by numbers that the caller hands out. `get?_set` and `get?_erase` are the
two frame rules: an update of one row leaves all others as they were.
-/

namespace PullConsumer

/-- Rows named by numbers; the first row of a name counts. -/
abbrev Table (α : Type) := List (Nat × α)

namespace Table

variable {α : Type}

def get? (name : Nat) : Table α → Option α
  | [] => none
  | (key, row) :: rest => if key = name then some row else get? name rest

/-- Sets the row of a name in place, or adds it at the end. -/
def set (name : Nat) (row : α) : Table α → Table α
  | [] => [(name, row)]
  | (key, old) :: rest => if key = name then (key, row) :: rest else (key, old) :: set name row rest

def erase (name : Nat) : Table α → Table α
  | [] => []
  | (key, row) :: rest => if key = name then erase name rest else (key, row) :: erase name rest

@[simp] theorem get?_nil (name : Nat) : get? name ([] : Table α) = none := rfl

/-- A name reads as the row last set for it, and other names read as before. -/
@[simp] theorem get?_set (table : Table α) (name other : Nat) (row : α) :
    (table.set name row).get? other = if name = other then some row else table.get? other := by
  induction table with
  | nil => rfl
  | cons head rest ih =>
    obtain ⟨key, old⟩ := head
    by_cases same : key = name
    · subst same
      simp only [set, get?, if_true]
      split <;> rfl
    · simp only [set, same, if_false, get?, ih]
      split
      · rename_i found
        rw [if_neg (fun keyed => same (found.trans keyed.symm))]
      · rfl

/-- The row that is set last counts. -/
theorem set_set (table : Table α) (name : Nat) (first second : α) :
    (table.set name first).set name second = table.set name second := by
  induction table with
  | nil => exact if_pos rfl
  | cons head rest ih =>
    obtain ⟨key, old⟩ := head
    by_cases same : key = name
    · simp only [set, same, if_true]
    · simp only [set, same, if_false, ih]

/-- A row that is set to what it is stays. -/
theorem set_of_get? {table : Table α} {name : Nat} {row : α} (found : table.get? name = some row) :
    table.set name row = table := by
  induction table with
  | nil => exact nomatch found
  | cons head rest ih =>
    obtain ⟨key, old⟩ := head
    unfold get? at found
    unfold set
    split at found
    · rw [if_pos (by assumption), Option.some.inj found]
    · rw [if_neg (by assumption), ih found]

/-- An erased name has no row, and other names read as before. -/
@[simp] theorem get?_erase (table : Table α) (name other : Nat) :
    (table.erase name).get? other = if name = other then none else table.get? other := by
  induction table with
  | nil => simp [erase, get?]
  | cons head rest ih =>
    obtain ⟨key, row⟩ := head
    by_cases same : key = name
    · subst same
      simp only [erase, if_true, get?, ih]
      split <;> rfl
    · simp only [erase, same, if_false, get?, ih]
      split
      · rename_i found
        rw [if_neg (fun keyed => same (found.trans keyed.symm))]
      · rfl

end Table

end PullConsumer
