import PullConsumer.Message
import PullConsumer.Proofs.Text.Numeral

/-! # The numbers in the attributes of a message

A message keeps its numbers as texts. Its offset has to be there and to be a numeral, and a failure
tells which of the two it is not (`Message.pullOffset_eq_ok_iff`, `Message.pullOffset_missing_iff`,
`Message.pullOffset_invalid_iff`); its delivery count is 1 unless it is a numeral
(`Message.times_eq_iff`). Both read back as they were set, whatever else is set later
(`Message.decodes_numbers`).
-/

namespace PullConsumer

/-- No two keys have one name. -/
theorem MessageKey.name_injective : Function.Injective MessageKey.name := fun key other => by
  cases key <;> cases other <;> decide

namespace Message

open Text.Numeral

variable {message : Message} {messageId text name : String} {key : MessageKey} {n : Int} {t : Nat}
  {writes : List (String × String)}

/-- The offset of a message spells a number of 64 bits with sign. -/
def Places (message : Message) (n : Int) : Prop :=
  ∃ text, message.property? MessageKey.pullOffset.name = some text ∧
    Integer text n ∧ -2 ^ 63 ≤ n ∧ n < 2 ^ 63

/-- The delivery count of a message spells a number of 32 bits. -/
def Counts (message : Message) (t : Nat) : Prop :=
  ∃ text, message.property? MessageKey.times.name = some text ∧ Natural text t ∧ t < 2 ^ 32

/-- A message has an offset exactly if the attribute is there and is read as one. -/
theorem places_iff :
    message.Places n ↔ (message.property? MessageKey.pullOffset.name).bind signed? = some n := by
  rw [Option.bind_eq_some_iff]
  exact exists_congr fun text => and_congr_right fun _ => signed?_eq_some_iff.symm

/-- A message has a delivery count exactly if the attribute is there and is read as one. -/
theorem counts_iff :
    message.Counts t ↔ (message.property? MessageKey.times.name).bind unsigned? = some t := by
  rw [Option.bind_eq_some_iff]
  exact exists_congr fun text => and_congr_right fun _ => unsigned?_eq_some_iff.symm

/-! ## The offset -/

/-- Without the attribute the error names the message and the key. -/
theorem pullOffset_of_absent (absent : message.property? MessageKey.pullOffset.name = none) :
    message.pullOffset = .error (.missingProperty message.id .pullOffset) := by
  rw [pullOffset, absent]

/-- With the attribute there is an offset, or the error names the message, the key and the text. -/
theorem pullOffset_of_present (found : message.property? MessageKey.pullOffset.name = some text) :
    (∃ n, message.Places n ∧ message.pullOffset = .ok n) ∨
      (∀ n, ¬ message.Places n) ∧
        message.pullOffset = .error (.invalidProperty message.id .pullOffset text) := by
  simp only [places_iff, pullOffset, found, Option.bind_some]
  cases signed? text with
  | none => exact .inr ⟨nofun, rfl⟩
  | some n => exact .inl ⟨n, rfl, rfl⟩

/-- A message has one offset at most. -/
theorem Places.unique {other : Int} (places : message.Places n) (again : message.Places other) :
    n = other :=
  Option.some.inj ((places_iff.mp places).symm.trans (places_iff.mp again))

/-- A message has an offset if and only if the attribute spells it. -/
theorem pullOffset_eq_ok_iff : message.pullOffset = .ok n ↔ message.Places n := by
  cases stored : message.property? MessageKey.pullOffset.name with
  | none =>
      rw [pullOffset_of_absent stored, places_iff, stored]
      exact ⟨nofun, nofun⟩
  | some text =>
      obtain ⟨m, places, reads⟩ | ⟨unplaced, reads⟩ := pullOffset_of_present stored
      · rw [reads, Except.ok.injEq]
        exact ⟨fun same => same ▸ places, places.unique⟩
      · rw [reads]
        exact ⟨nofun, fun places => absurd places (unplaced n)⟩

/-- An offset is reported missing if and only if there is no such attribute. -/
theorem pullOffset_missing_iff :
    message.pullOffset = .error (.missingProperty messageId key) ↔
      message.property? MessageKey.pullOffset.name = none ∧ messageId = message.id ∧
        key = .pullOffset := by
  cases stored : message.property? MessageKey.pullOffset.name with
  | none =>
      rw [pullOffset_of_absent stored, Except.error.injEq, MessageFault.missingProperty.injEq]
      constructor
      · rintro ⟨rfl, rfl⟩
        exact ⟨rfl, rfl, rfl⟩
      · rintro ⟨_, rfl, rfl⟩
        exact ⟨rfl, rfl⟩
  | some text =>
      obtain ⟨m, _, reads⟩ | ⟨_, reads⟩ := pullOffset_of_present stored <;>
        exact reads ▸ ⟨nofun, nofun⟩

/-- An offset is reported invalid, with its text, if and only if the text is there and spells no
offset. -/
theorem pullOffset_invalid_iff :
    message.pullOffset = .error (.invalidProperty messageId key text) ↔
      message.property? MessageKey.pullOffset.name = some text ∧ (∀ n, ¬ message.Places n) ∧
        messageId = message.id ∧ key = .pullOffset := by
  cases stored : message.property? MessageKey.pullOffset.name with
  | none => exact pullOffset_of_absent stored ▸ ⟨nofun, nofun⟩
  | some kept =>
      obtain ⟨m, places, reads⟩ | ⟨unplaced, reads⟩ := pullOffset_of_present stored
      · exact reads ▸ ⟨nofun, fun both => absurd places (both.2.1 m)⟩
      · rw [reads, Except.error.injEq, MessageFault.invalidProperty.injEq]
        constructor
        · rintro ⟨rfl, rfl, rfl⟩
          exact ⟨rfl, unplaced, rfl, rfl⟩
        · rintro ⟨same, _, rfl, rfl⟩
          exact ⟨rfl, rfl, Option.some.inj same⟩

/-! ## The delivery count -/

/-- A message counts as delivered once unless its attribute spells a count. -/
theorem times_eq_iff :
    message.times = t ↔ message.Counts t ∨ t = 1 ∧ ∀ count, ¬ message.Counts count := by
  simp only [counts_iff, times]
  cases (message.property? MessageKey.times.name).bind unsigned? with
  | none => simp [eq_comm]
  | some count => simp

/-! ## Setting attributes -/

/-- Sets attributes one after the other. -/
def setProperties (message : Message) (writes : List (String × String)) : Message :=
  writes.foldl (fun message write => message.setProperty write.1 write.2) message

/-- Setting other attributes leaves an attribute alone. -/
theorem property?_setProperties (message : Message)
    (others : ∀ write ∈ writes, write.1 ≠ name) :
    (message.setProperties writes).property? name = message.property? name := by
  induction writes generalizing message with
  | nil => rfl
  | cons write rest ih =>
      obtain ⟨differs, others⟩ := List.forall_mem_cons.mp others
      exact (ih _ others).trans ((property?_setProperty ..).trans (if_neg differs))

/-- A key that is set is read back, and the other keys are as before. -/
@[simp] theorem property?_setKey (message : Message) (key other : MessageKey) (text : String) :
    (message.setKey key text).property? other.name =
      if key = other then some text else message.property? other.name := by
  rw [setKey, property?_setProperty]
  exact if_congr MessageKey.name_injective.eq_iff rfl rfl

/-- A printed offset is read back. -/
theorem pullOffset_of_printed {n : Int64}
    (found : message.property? MessageKey.pullOffset.name = some (toString n)) :
    message.pullOffset = .ok n.toInt := by
  rw [pullOffset_eq_ok_iff, places_iff, found]
  exact signed?_toString n

/-- A printed delivery count is read back. -/
theorem times_of_printed {t : UInt32}
    (found : message.property? MessageKey.times.name = some (toString t)) :
    message.times = t.toNat := by
  refine times_eq_iff.mpr (.inl (counts_iff.mpr ?_))
  rw [found]
  exact unsigned?_toString t

/-- What the numbers in the attributes of a message are read as. -/
structure Decodes (message : Message) : Prop where
  /-- The offset is a number if and only if its attribute spells it. -/
  offset : ∀ n, message.pullOffset = .ok n ↔ message.Places n
  /-- It is missing if and only if the attribute is. -/
  missing : ∀ messageId key, message.pullOffset = .error (.missingProperty messageId key) ↔
    message.property? MessageKey.pullOffset.name = none ∧ messageId = message.id ∧ key = .pullOffset
  /-- In every other case it is invalid, and the failure carries the text as it is. -/
  invalid : ∀ messageId key text,
    message.pullOffset = .error (.invalidProperty messageId key text) ↔
      message.property? MessageKey.pullOffset.name = some text ∧ (∀ n, ¬ message.Places n) ∧
        messageId = message.id ∧ key = .pullOffset
  /-- The delivery count is what its attribute spells, and 1 in every other case. -/
  times : ∀ t, message.times = t ↔
    message.Counts t ∨ t = 1 ∧ ∀ count, ¬ message.Counts count
  /-- Numbers read back as they were set, in whatever order and whatever else is set later. -/
  readBack : ∀ (n : Int64) (t : UInt32) (writes : List (String × String)),
    (∀ write ∈ writes, write.1 ≠ MessageKey.pullOffset.name ∧ write.1 ≠ MessageKey.times.name) →
    ∀ numbered ∈ [(message.setKey .pullOffset (toString n)).setKey .times (toString t),
        (message.setKey .times (toString t)).setKey .pullOffset (toString n)],
      (numbered.setProperties writes).pullOffset = .ok n.toInt ∧
        (numbered.setProperties writes).times = t.toNat

/-- **Numbers in attributes.** Of every message, the offset and the delivery count are read by their
grammars and within their ranges, and numbers that were set read back. -/
theorem decodes_numbers (message : Message) : message.Decodes where
  offset _ := pullOffset_eq_ok_iff
  missing _ _ := pullOffset_missing_iff
  invalid _ _ _ := pullOffset_invalid_iff
  times _ := times_eq_iff
  readBack n t writes others numbered member := by
    simp only [List.mem_cons, List.not_mem_nil, or_false] at member
    have set : numbered.property? MessageKey.pullOffset.name = some (toString n) ∧
        numbered.property? MessageKey.times.name = some (toString t) := by
      rcases member with rfl | rfl <;> simp
    have offset := property?_setProperties numbered fun write later => (others write later).1
    have count := property?_setProperties numbered fun write later => (others write later).2
    exact ⟨pullOffset_of_printed (offset.trans set.1), times_of_printed (count.trans set.2)⟩

/-- The least offset and the greatest count read back, although a user attribute is set later. -/
theorem decodes_numbers_extremes :
    let numbered := ((default : Message).setKey .pullOffset (toString Int64.minValue)).setKey .times
      (toString (4294967295 : UInt32))
    (numbered.setProperties [("retry", "x")]).pullOffset = .ok (-9223372036854775808) ∧
      (numbered.setProperties [("retry", "x")]).times = 4294967295 :=
  (decodes_numbers default).readBack Int64.minValue 4294967295 [("retry", "x")] (by decide) _
    List.mem_cons_self

end Message

end PullConsumer
