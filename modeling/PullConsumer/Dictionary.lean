/-! # Maps from text keys to values, kept in key order

A dictionary lists its pairs in strictly increasing key order, so two dictionaries with the same
look-ups are equal. `get?_insert` and `get?_erase` say what the two updates do to a look-up.
-/

namespace PullConsumer

/-- A finite map from strings, listed in strictly increasing key order. -/
structure Dictionary (α : Type) where
  entries : List (String × α)
  sorted : entries.Pairwise (fun left right => left.1 < right.1)
deriving DecidableEq

namespace Dictionary

variable {α β : Type}

/-- The dictionary without entries. -/
def empty : Dictionary α := ⟨[], .nil⟩

instance : Inhabited (Dictionary α) := ⟨empty⟩

/-- The value of the first pair with the given key. -/
def find? (key : String) : List (String × α) → Option α
  | [] => none
  | (name, value) :: rest => if name = key then some value else find? key rest

/-- The value stored under a key. -/
def get? (dictionary : Dictionary α) (key : String) : Option α :=
  find? key dictionary.entries

/-- The pairs with one key set, in key order. -/
def place (key : String) (value : α) : List (String × α) → List (String × α)
  | [] => [(key, value)]
  | (name, old) :: rest =>
    if key = name then (key, value) :: rest
    else if key < name then (key, value) :: (name, old) :: rest
    else (name, old) :: place key value rest

/-- A pair of a dictionary was placed last or was there before. -/
theorem mem_place {key : String} {value : α} {pair : String × α} {pairs : List (String × α)}
    (member : pair ∈ place key value pairs) : pair = (key, value) ∨ pair ∈ pairs := by
  induction pairs with
  | nil => exact .inl (List.mem_singleton.mp member)
  | cons head rest ih =>
    obtain ⟨name, old⟩ := head
    unfold place at member
    split at member
    · rcases List.mem_cons.mp member with same | inside
      · exact .inl same
      · exact .inr (List.mem_cons_of_mem _ inside)
    · split at member
      · exact List.mem_cons.mp member
      · rcases List.mem_cons.mp member with same | inside
        · exact .inr (same ▸ List.mem_cons_self)
        · exact (ih inside).imp_right (List.mem_cons_of_mem _)

/-- A pair is placed in the order of the keys. -/
theorem place_sorted (key : String) (value : α) {pairs : List (String × α)}
    (sorted : pairs.Pairwise (fun left right => left.1 < right.1)) :
    (place key value pairs).Pairwise (fun left right => left.1 < right.1) := by
  induction pairs with
  | nil => exact List.pairwise_singleton _ _
  | cons head rest ih =>
    obtain ⟨name, old⟩ := head
    obtain ⟨below, tail⟩ := List.pairwise_cons.mp sorted
    unfold place
    split
    · rename_i same
      subst same
      exact List.pairwise_cons.mpr ⟨below, tail⟩
    · rename_i differs
      split
      · rename_i smaller
        refine List.pairwise_cons.mpr ⟨fun pair inside => ?_, sorted⟩
        rcases List.mem_cons.mp inside with same | further
        · subst same
          exact smaller
        · exact String.lt_trans smaller (below pair further)
      · rename_i larger
        refine List.pairwise_cons.mpr ⟨fun pair inside => ?_, ih tail⟩
        rcases mem_place inside with same | further
        · subst same
          exact Std.lt_of_le_of_ne (String.not_lt.mp larger) (Ne.symm differs)
        · exact below pair further

/-- Sets the value of a key. -/
def insert (dictionary : Dictionary α) (key : String) (value : α) : Dictionary α :=
  ⟨place key value dictionary.entries, place_sorted key value dictionary.sorted⟩

/-- Removes a key. -/
def erase (dictionary : Dictionary α) (key : String) : Dictionary α :=
  ⟨dictionary.entries.filter (fun pair => pair.1 ≠ key), dictionary.sorted.filter _⟩

/-- Applies a function of key and value to every value. -/
def mapValues (dictionary : Dictionary α) (change : String → α → β) : Dictionary β :=
  ⟨dictionary.entries.map (fun pair => (pair.1, change pair.1 pair.2)),
    List.pairwise_map.mpr dictionary.sorted⟩

/-- The dictionary of a list of pairs; of two pairs with one key the later wins. -/
def ofList (pairs : List (String × α)) : Dictionary α :=
  pairs.foldl (fun dictionary pair => dictionary.insert pair.1 pair.2) empty

/-- The keys in increasing order. -/
def keys (dictionary : Dictionary α) : List String :=
  dictionary.entries.map Prod.fst

/-- The number of keys. -/
def size (dictionary : Dictionary α) : Nat :=
  dictionary.entries.length

@[simp] theorem get?_empty (key : String) : (empty : Dictionary α).get? key = none := rfl

/-- The placed value is found under its key, and the others are found as before. -/
theorem find?_place (key other : String) (value : α) (pairs : List (String × α)) :
    find? other (place key value pairs) =
      if key = other then some value else find? other pairs := by
  induction pairs with
  | nil => rfl
  | cons head rest ih =>
    obtain ⟨name, old⟩ := head
    unfold place
    split
    · rename_i same
      subst same
      simp only [find?]
      split <;> rfl
    · split
      · rfl
      · rename_i differs _
        simp only [find?, ih]
        split
        · rename_i found
          rw [if_neg (fun same => differs (same.trans found.symm))]
        · rfl

/-- A key reads as the value last set under it, and other keys read as before. -/
@[simp] theorem get?_insert (dictionary : Dictionary α) (key other : String) (value : α) :
    (dictionary.insert key value).get? other =
      if key = other then some value else dictionary.get? other :=
  find?_place key other value dictionary.entries

/-- A filtered key is not found, and the others are found as before. -/
theorem find?_filter (key other : String) (pairs : List (String × α)) :
    find? other (pairs.filter (fun pair => pair.1 ≠ key)) =
      if key = other then none else find? other pairs := by
  induction pairs with
  | nil => simp [find?]
  | cons head rest ih =>
    obtain ⟨name, value⟩ := head
    by_cases same : name = key
    · subst same
      simp only [ne_eq, not_true_eq_false, decide_false, Bool.false_eq_true, not_false_eq_true,
        List.filter_cons_of_neg, find?] at ih ⊢
      rw [ih]
      split <;> simp_all
    · simp only [ne_eq, same, not_false_eq_true, decide_true, List.filter_cons_of_pos, find?]
        at ih ⊢
      rw [ih]
      split
      · rename_i found
        rw [if_neg (fun keyed => same (found.trans keyed.symm))]
      · rfl

/-- An erased key reads as absent, and other keys read as before. -/
@[simp] theorem get?_erase (dictionary : Dictionary α) (key other : String) :
    (dictionary.erase key).get? other = if key = other then none else dictionary.get? other :=
  find?_filter key other dictionary.entries

end Dictionary

end PullConsumer
