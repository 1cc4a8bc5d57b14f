import PullConsumer.Dictionary

/-! # Dictionaries by their look-ups

A dictionary has no more to it than its look-ups (`Dictionary.ext_get?`), and its pairs are those of
its look-ups (`Dictionary.mem_entries_iff`). So a list of its pairs makes it up again, in whatever
order they come (`Dictionary.ofList_of_perm`).
-/

namespace PullConsumer.Dictionary

variable {α : Type} {dictionary other : Dictionary α} {key : String} {value : α}
  {pairs : List (String × α)}

/-- No key is listed twice. -/
theorem nodup_keys (dictionary : Dictionary α) : dictionary.keys.Nodup :=
  List.pairwise_map.mpr (dictionary.sorted.imp fun less => String.ne_of_lt less)

/-- What is found under a key is listed under it. -/
theorem mem_of_find? (found : find? key pairs = some value) : (key, value) ∈ pairs := by
  induction pairs with
  | nil => exact nomatch found
  | cons head rest ih =>
      obtain ⟨name, first⟩ := head
      unfold find? at found
      split at found
      · rename_i same
        cases found
        exact same ▸ List.mem_cons_self
      · exact List.mem_cons_of_mem _ (ih found)

/-- Among pairs with distinct keys every pair is found under its own. -/
theorem find?_eq_some_iff (distinct : (pairs.map Prod.fst).Nodup) :
    find? key pairs = some value ↔ (key, value) ∈ pairs := by
  refine ⟨mem_of_find?, fun member => ?_⟩
  induction pairs with
  | nil => exact absurd member List.not_mem_nil
  | cons head rest ih =>
      obtain ⟨name, first⟩ := head
      obtain ⟨alone, distinct⟩ := List.nodup_cons.mp distinct
      unfold find?
      rcases List.mem_cons.mp member with here | later
      · cases here
        exact if_pos rfl
      · have listed : key ∈ rest.map Prod.fst := List.mem_map_of_mem later
        rw [if_neg fun same : name = key => alone (same ▸ listed)]
        exact ih distinct later

/-- The pairs of a dictionary are those of its look-ups. -/
theorem mem_entries_iff : (key, value) ∈ dictionary.entries ↔ dictionary.get? key = some value :=
  (find?_eq_some_iff dictionary.nodup_keys).symm

/-- The keys of a dictionary are those that have a value. -/
theorem mem_keys_iff : key ∈ dictionary.keys ↔ ∃ value, dictionary.get? key = some value := by
  constructor
  · intro member
    obtain ⟨⟨name, value⟩, listed, rfl⟩ := List.mem_map.mp member
    exact ⟨value, mem_entries_iff.mp listed⟩
  · rintro ⟨value, found⟩
    exact List.mem_map_of_mem (mem_entries_iff.mpr found)

/-- Dictionaries with the same look-ups are equal. -/
theorem ext_get? (same : ∀ key, dictionary.get? key = other.get? key) : dictionary = other := by
  have pairs : ∀ pair, pair ∈ dictionary.entries ↔ pair ∈ other.entries := by
    rintro ⟨key, value⟩
    rw [mem_entries_iff, mem_entries_iff, same]
  have distinct : ∀ each : Dictionary α, each.entries.Nodup := fun each =>
    each.sorted.imp fun below same => String.ne_of_lt below (congrArg Prod.fst same)
  have perm := (List.perm_ext_iff_of_nodup (distinct dictionary) (distinct other)).mpr pairs
  have entries : dictionary.entries = other.entries :=
    perm.eq_of_pairwise (fun _ _ _ _ below above => absurd above (String.lt_asymm below))
      dictionary.sorted other.sorted
  cases dictionary
  cases other
  cases entries
  rfl

/-- Setting pairs of distinct keys one after the other changes the look-ups of these keys. -/
theorem get?_foldl_insert (distinct : (pairs.map Prod.fst).Nodup) (start : Dictionary α)
    (key : String) :
    (pairs.foldl (fun dictionary pair => dictionary.insert pair.1 pair.2) start).get? key =
      (find? key pairs).or (start.get? key) := by
  induction pairs generalizing start with
  | nil => exact (Option.none_or ..).symm
  | cons head rest ih =>
      obtain ⟨name, first⟩ := head
      obtain ⟨alone, distinct⟩ := List.nodup_cons.mp distinct
      rw [List.foldl_cons, ih distinct, get?_insert, find?]
      split
      · rename_i same
        have absent : find? key rest = none := by
          refine Option.eq_none_iff_forall_ne_some.mpr fun value found => ?_
          have listed : key ∈ rest.map Prod.fst := List.mem_map_of_mem (mem_of_find? found)
          exact alone (same ▸ listed)
        rw [absent, Option.none_or, Option.some_or]
      · rfl

/-- The pairs of a dictionary make it up, in whatever order they come. -/
theorem ofList_of_perm (perm : pairs.Perm dictionary.entries) : ofList pairs = dictionary := by
  have distinct : (pairs.map Prod.fst).Nodup :=
    (perm.map Prod.fst).nodup_iff.mpr dictionary.nodup_keys
  refine ext_get? fun key => ?_
  refine (get?_foldl_insert distinct empty key).trans ((Option.or_none ..).trans ?_)
  refine Option.ext fun value => ?_
  rw [find?_eq_some_iff distinct, perm.mem_iff, mem_entries_iff]

end PullConsumer.Dictionary
