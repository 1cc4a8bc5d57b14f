/-! # Increasing lists of offsets

Facts on lists of whole numbers in strictly increasing order, as the registered offsets of a queue
are: the last one bounds all (`Increasing.le_getLastD`), a block is what lies between its ends
(`Increasing.filter_range`), and a number that is jumped over has two neighbours
(`Increasing.exists_neighbours`).
-/

namespace PullConsumer.Increasing

variable {first last offset : Int} {offsets front block back : List Int}

theorem getLastD_append (front : List Int) {block : List Int} (nonempty : block ≠ [])
    (first other : Int) : (front ++ block).getLastD first = block.getLastD other := by
  rw [List.getLastD_eq_getLast?, List.getLastD_eq_getLast?, List.getLast?_append,
    List.getLast?_eq_some_getLast nonempty]
  rfl

/-- No number of an increasing list is above the last. -/
theorem le_getLastD (increasing : (first :: offsets).Pairwise (· < ·)) :
    ∀ offset ∈ first :: offsets, offset ≤ offsets.getLastD first := by
  induction offsets generalizing first with
  | nil =>
      intro offset member
      rw [List.mem_singleton.mp member]
      exact Int.le_refl first
  | cons second rest ih =>
      intro offset member
      rw [List.pairwise_cons] at increasing
      rw [List.getLastD_cons]
      rcases List.mem_cons.mp member with rfl | later
      · have step := increasing.1 second List.mem_cons_self
        exact Int.le_trans (Int.le_of_lt step) (ih increasing.2 second List.mem_cons_self)
      · exact ih increasing.2 offset later

/-- The last number of an increasing list is the highest. -/
theorem foldl_max (increasing : (first :: offsets).Pairwise (· < ·)) :
    offsets.foldl max first = offsets.getLastD first := by
  induction offsets generalizing first with
  | nil => rfl
  | cons second rest ih =>
      rw [List.pairwise_cons] at increasing
      have step := increasing.1 second List.mem_cons_self
      rw [List.foldl_cons, List.getLastD_cons, Int.max_eq_right (Int.le_of_lt step)]
      exact ih increasing.2

theorem append_singleton (increasing : (first :: offsets).Pairwise (· < ·))
    (above : offsets.getLastD first < offset) :
    (first :: (offsets ++ [offset])).Pairwise (· < ·) := by
  rw [← List.cons_append, List.pairwise_append]
  refine ⟨increasing, List.pairwise_singleton _ offset, ?_⟩
  intro earlier member later here
  rw [List.mem_singleton.mp here]
  exact Int.lt_of_le_of_lt (le_getLastD increasing earlier member) above

theorem lt_of_append (increasing : (front ++ back).Pairwise (· < ·)) {earlier later : Int}
    (before : earlier ∈ front) (after : later ∈ back) : earlier < later :=
  (List.pairwise_append.mp increasing).2.2 earlier before later after

/-- The numbers of a block lie between its ends. -/
theorem headD_le_and_le_getLastD (increasing : block.Pairwise (· < ·)) (member : offset ∈ block) :
    block.headD 0 ≤ offset ∧ offset ≤ block.getLastD 0 := by
  cases block with
  | nil => exact absurd member List.not_mem_nil
  | cons head rest =>
      rw [List.getLastD_cons, List.headD_cons]
      refine ⟨?_, le_getLastD increasing offset member⟩
      rcases List.mem_cons.mp member with rfl | later
      · exact Int.le_refl offset
      · exact Int.le_of_lt ((List.pairwise_cons.mp increasing).1 offset later)

theorem headD_mem (nonempty : block ≠ []) : block.headD 0 ∈ block := by
  cases block with
  | nil => exact absurd rfl nonempty
  | cons head rest => exact List.mem_cons_self

theorem getLastD_mem (nonempty : block ≠ []) : block.getLastD 0 ∈ block := by
  cases block with
  | nil => exact absurd rfl nonempty
  | cons head rest =>
      rw [List.getLastD_cons]
      exact List.getLastD_mem_cons

/-- A block of an increasing list is all that lies between its ends. -/
theorem filter_range (increasing : (front ++ block ++ back).Pairwise (· < ·))
    (nonempty : block ≠ []) :
    (front ++ block ++ back).filter
      (fun offset => block.headD 0 ≤ offset ∧ offset ≤ block.getLastD 0) = block := by
  have inner : (front ++ block).Pairwise (· < ·) := (List.pairwise_append.mp increasing).1
  have sorted : block.Pairwise (· < ·) := (List.pairwise_append.mp inner).2.1
  have below : front.filter
      (fun offset => block.headD 0 ≤ offset ∧ offset ≤ block.getLastD 0) = [] := by
    refine List.filter_eq_nil_iff.mpr fun offset member inside => ?_
    have small := lt_of_append inner member (headD_mem nonempty)
    exact absurd (of_decide_eq_true inside).1 (Int.not_le.mpr small)
  have above : back.filter
      (fun offset => block.headD 0 ≤ offset ∧ offset ≤ block.getLastD 0) = [] := by
    refine List.filter_eq_nil_iff.mpr fun offset member inside => ?_
    have large := lt_of_append increasing
      (List.mem_append_right front (getLastD_mem nonempty)) member
    exact absurd (of_decide_eq_true inside).2 (Int.not_le.mpr large)
  have whole : block.filter
      (fun offset => block.headD 0 ≤ offset ∧ offset ≤ block.getLastD 0) = block :=
    List.filter_eq_self.mpr fun offset member =>
      decide_eq_true (headD_le_and_le_getLastD sorted member)
  rw [List.filter_append, List.filter_append, below, above, whole, List.nil_append,
    List.append_nil]

/-- A number between the ends of a block that is not in the block lies strictly between two
neighbours in it. -/
theorem exists_neighbours (low : block.headD 0 ≤ offset) (high : offset ≤ block.getLastD 0)
    (absent : offset ∉ block) (nonempty : block ≠ []) :
    ∃ below above, [below, above] <:+: block ∧ below < offset ∧ offset < above := by
  cases block with
  | nil => exact absurd rfl nonempty
  | cons head rest =>
      rw [List.headD_cons] at low
      rw [List.getLastD_cons] at high
      induction rest generalizing head with
      | nil =>
          have same : offset = head := Int.le_antisymm high low
          exact absurd (List.mem_singleton.mpr same) absent
      | cons next rest ih =>
          have different : offset ≠ head := fun same => absent (same ▸ List.mem_cons_self)
          by_cases jumped : offset < next
          · exact ⟨head, next, ⟨[], rest, rfl⟩, by omega, jumped⟩
          · rw [List.getLastD_cons] at high
            obtain ⟨below, above, inside, under, beyond⟩ := ih next (Int.not_lt.mp jumped) high
              (fun member => absent (List.mem_cons_of_mem head member)) (List.cons_ne_nil _ _)
            exact ⟨below, above, inside.trans (List.infix_cons (List.infix_refl _)), under, beyond⟩

/-- Where numbers increase, each stands for one item. -/
theorem filter_eq_singleton {α : Type} {number : α → Int} {items : List α}
    (increasing : (items.map number).Pairwise (· < ·)) {item : α} (member : item ∈ items) :
    items.filter (fun other => number other = number item) = [item] := by
  induction items with
  | nil => exact nomatch member
  | cons head rest ih =>
      obtain ⟨above, increasing⟩ := List.pairwise_cons.mp increasing
      rcases List.mem_cons.mp member with rfl | later
      · have others : rest.filter (fun other => number other = number item) = [] := by
          refine List.filter_eq_nil_iff.mpr fun other inside same => ?_
          have less := above (number other) (List.mem_map_of_mem inside)
          rw [of_decide_eq_true same] at less
          exact Int.lt_irrefl _ less
        rw [List.filter_cons, if_pos (decide_eq_true rfl), others]
      · have different : number head ≠ number item := by
          intro same
          have less := above (number item) (List.mem_map_of_mem later)
          rw [same] at less
          exact Int.lt_irrefl _ less
        rw [List.filter_cons, if_neg (by simpa using different)]
        exact ih increasing later

end PullConsumer.Increasing
