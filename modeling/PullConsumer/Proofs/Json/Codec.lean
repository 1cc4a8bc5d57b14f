import Mathlib.Data.List.Forall2
import PullConsumer.Json.Codec
import PullConsumer.Proofs.Dictionary

/-! # Reading back what was written

Numbers, lists, maps, choices and messages are read back as they were written
(`Json.RoundTrips`). The members of an object may come in any order: each is taken into the draft of
the message by itself (`MessageDraft.Adds`), so a draft does not depend on their order
(`MessageDraft.addAll_of_perm`).
-/

namespace PullConsumer.Json

/-- What is written is read back, and what was read once is read again after it was written. -/
structure RoundTrips {α : Type} (decode : Value → Decoded α) (encode : α → Value) : Prop where
  back : ∀ a, decode (encode a) = .ok a
  again : ∀ value a, decode value = .ok a → decode (encode a) = .ok a

/-- A codec round trips as soon as it reads back what it writes. -/
theorem RoundTrips.of_back {α : Type} {decode : Value → Decoded α} {encode : α → Value}
    (back : ∀ a, decode (encode a) = .ok a) : RoundTrips decode encode :=
  ⟨back, fun _ a _ => back a⟩

/-- A result that goes on is that of two steps. -/
theorem bind_eq_ok_iff {α β : Type} {first : Decoded α} {next : α → Decoded β} {b : β} :
    first >>= next = .ok b ↔ ∃ a, first = .ok a ∧ next a = .ok b := by
  cases first with
  | ok a =>
      exact ⟨fun same => ⟨a, rfl, same⟩, fun ⟨_, same, further⟩ => by cases same; exact further⟩
  | error fault => exact ⟨nofun, fun ⟨_, same, _⟩ => nomatch same⟩

/-! ### Numbers, lists and maps -/

/-- A number within its bounds is read. -/
theorem decodeInteger_of_within {low high number : Int} (expected : String) (above : low ≤ number)
    (below : number ≤ high) : decodeInteger low high expected (.integer number) = .ok number :=
  if_pos ⟨above, below⟩

theorem decodeUInt64_toNat (expected : String) (number : UInt64) :
    decodeUInt64 expected (.integer number.toNat) = .ok number := by
  have below := number.toNat_lt
  rw [decodeUInt64, decodeInteger_of_within expected (by omega) (by omega)]
  exact congrArg Except.ok (UInt64.ofNat_toNat ..)

theorem decodeByte_toNat (byte : UInt8) : decodeByte (.integer byte.toNat) = .ok byte := by
  have below := byte.toNat_lt
  rw [decodeByte, decodeInteger_of_within "u8" (by omega) (by omega)]
  exact congrArg Except.ok (UInt8.ofNat_toNat ..)

theorem decodeInt16_toInt (number : Int16) : decodeInt16 (.integer number.toInt) = .ok number := by
  have above := number.le_toInt
  have below := number.toInt_lt
  rw [decodeInt16, decodeInteger_of_within "i16" (by omega) (by omega)]
  exact congrArg Except.ok (Int16.ofInt_toInt ..)

section Collections

variable {α : Type} {item : Value → Decoded α} {write : α → Value}

/-- A list is read back if its items are. -/
theorem decodeItems_map (back : ∀ a, item (write a) = .ok a) (list : List α) :
    decodeItems item (list.map write) = .ok list := by
  induction list with
  | nil => rfl
  | cons a rest ih =>
      rw [List.map_cons, decodeItems, back, ih]
      rfl

/-- A map is read from members whose values are read one by one. -/
theorem decodeMap_of_forall₂ {members : List (String × Value)} {pairs : List (String × α)}
    (reads : List.Forall₂ (fun member pair => member.1 = pair.1 ∧ item member.2 = .ok pair.2)
      members pairs) : decodeMap item (.object members) = .ok (.ofList pairs) := by
  have step : ∀ read, decodeMembers item read members =
      .ok (pairs.foldl (fun dictionary pair => dictionary.insert pair.1 pair.2) read) := by
    induction reads with
    | nil => exact fun _ => rfl
    | cons first _ ih =>
        obtain ⟨name, value⟩ := first
        intro read
        rw [decodeMembers, value, name]
        exact ih _
  exact step .empty

/-- A map is read back from its members in any order. -/
theorem decodeMap_of_perm (back : ∀ a, item (write a) = .ok a) {map : Dictionary α}
    {pairs : List (String × α)} (perm : pairs.Perm map.entries) :
    decodeMap item (.object (pairs.map fun pair => (pair.1, write pair.2))) = .ok map := by
  have reads : List.Forall₂ (fun member pair => member.1 = pair.1 ∧ item member.2 = .ok pair.2)
      (pairs.map fun pair => (pair.1, write pair.2)) pairs :=
    List.forall₂_map_left_iff.mpr (List.forall₂_same.mpr fun pair _ => ⟨rfl, back pair.2⟩)
  rw [decodeMap_of_forall₂ reads, Dictionary.ofList_of_perm perm]

end Collections

/-! ### Choices -/

theorem strategy_roundTrips : RoundTrips decodeStrategy encodeStrategy :=
  .of_back fun strategy => by cases strategy <;> rfl

theorem clientKind_roundTrips : RoundTrips decodeClientKind encodeClientKind :=
  .of_back fun kind => by cases kind <;> rfl

theorem responseCode_roundTrips : RoundTrips decodeResponseCode encodeResponseCode := by
  refine .of_back fun code => ?_
  cases code with
  | other number =>
      change (decodeInt16 (.integer number.toInt)).map ResponseCode.other = _
      rw [decodeInt16_toInt]
      rfl
  | _ => rfl

/-! ### Messages -/

def messageFields : List String := ["message_id", "subject", "payload", "attributes"]

/-- What a member adds to the draft of a message. -/
inductive MessageDraft.Adds (draft : MessageDraft) : String → Value → MessageDraft → Prop
  | id {value : Value} {id : String} (unread : draft.id = none)
      (read : decodeString value = .ok id) :
      Adds draft "message_id" value { draft with id := some id }
  | subject {value : Value} {subject : String} (unread : draft.subject = none)
      (read : decodeString value = .ok subject) :
      Adds draft "subject" value { draft with subject := some subject }
  | payload {value : Value} {payload : List UInt8} (unread : draft.payload = none)
      (read : decodeBytes value = .ok payload) :
      Adds draft "payload" value { draft with payload := some payload }
  | attributes {value : Value} {attributes : Dictionary String} (unread : draft.attributes = none)
      (read : decodeMap decodeString value = .ok attributes) :
      Adds draft "attributes" value { draft with attributes := some attributes }
  | other {name : String} {value : Value} (unknown : name ∉ messageFields) :
      Adds draft name value draft

/-- A field is taken if it was not read before and its value decodes. -/
theorem once_then_eq_ok_iff {α β : Type} {old : Option α} {name : String} {read : Decoded α}
    {update : Option α → β} {next : β} :
    (once old name read >>= fun new => pure (update new)) = .ok next ↔
      old = none ∧ ∃ a, read = .ok a ∧ update (some a) = next := by
  cases old with
  | some a => exact ⟨nofun, fun both => nomatch both.1⟩
  | none =>
      cases read with
      | error fault => exact ⟨nofun, fun ⟨_, _, same, _⟩ => nomatch same⟩
      | ok a =>
          refine ⟨fun same => ⟨rfl, a, rfl, Except.ok.inj same⟩, ?_⟩
          rintro ⟨_, _, same, rfl⟩
          cases same
          rfl

namespace MessageDraft

variable {draft next last : MessageDraft} {name other : String} {value also : Value}
  {members others : List (String × Value)}

/-- A pair is added to a draft exactly as `Adds` lists it. -/
theorem add_eq_ok_iff : draft.add name value = .ok next ↔ draft.Adds name value next := by
  constructor
  · intro added
    unfold add at added
    split at added
    · obtain ⟨unread, id, read, rfl⟩ := once_then_eq_ok_iff.mp added
      exact .id unread read
    · obtain ⟨unread, subject, read, rfl⟩ := once_then_eq_ok_iff.mp added
      exact .subject unread read
    · obtain ⟨unread, payload, read, rfl⟩ := once_then_eq_ok_iff.mp added
      exact .payload unread read
    · obtain ⟨unread, attributes, read, rfl⟩ := once_then_eq_ok_iff.mp added
      exact .attributes unread read
    · cases added
      refine .other ?_
      simp only [messageFields, List.mem_cons, List.not_mem_nil, or_false, not_or]
      exact ⟨‹_›, ‹_›, ‹_›, ‹_›⟩
  · intro adds
    cases adds with
    | other unknown =>
        simp only [messageFields, List.mem_cons, List.not_mem_nil, or_false, not_or] at unknown
        obtain ⟨id, subject, payload, attributes⟩ := unknown
        unfold add
        split <;> first | contradiction | rfl
    | _ unread read => exact once_then_eq_ok_iff.mpr ⟨unread, _, read, rfl⟩

/-- Members of different names may be taken in either order. -/
theorem add_comm (different : name ≠ other) (first : draft.add name value = .ok next)
    (second : next.add other also = .ok last) :
    ∃ middle, draft.add other also = .ok middle ∧ middle.add name value = .ok last := by
  simp only [add_eq_ok_iff] at first second ⊢
  cases first <;> cases second
  all_goals first
    | exact absurd rfl different
    | exact ⟨_, by constructor <;> assumption, by constructor <;> assumption⟩

/-- The draft of members of different names does not depend on their order. -/
theorem addAll_of_perm (perm : members.Perm others) (distinct : (members.map Prod.fst).Nodup)
    (added : draft.addAll members = .ok last) : draft.addAll others = .ok last := by
  induction perm generalizing draft with
  | nil => exact added
  | cons member _ ih =>
      obtain ⟨next, first, rest⟩ := bind_eq_ok_iff.mp added
      exact bind_eq_ok_iff.mpr ⟨next, first, ih (List.nodup_cons.mp distinct).2 rest⟩
  | swap left right others =>
      obtain ⟨next, first, rest⟩ := bind_eq_ok_iff.mp added
      obtain ⟨after, second, rest⟩ := bind_eq_ok_iff.mp rest
      have different : right.1 ≠ left.1 := fun same =>
        (List.nodup_cons.mp distinct).1 (same ▸ List.mem_cons_self)
      obtain ⟨middle, early, late⟩ := add_comm different first second
      exact bind_eq_ok_iff.mpr ⟨middle, early, bind_eq_ok_iff.mpr ⟨after, late, rest⟩⟩
  | trans first _ ih further =>
      exact further ((first.map Prod.fst).nodup_iff.mp distinct) (ih distinct added)

end MessageDraft

/-- The members of a message, with its attributes in some order. -/
def messageMembers (message : Message) (attributes : List (String × String)) :
    List (String × Value) :=
  [("message_id", .string message.id), ("subject", .string message.subject),
    ("payload", .array (message.payload.map fun byte => .integer byte.toNat)),
    ("attributes", .object (attributes.map fun pair => (pair.1, .string pair.2)))]

/-- A message is read back from its members in any order, its attributes in any order. -/
theorem decodeMessage_of_perm {message : Message} {attributes : List (String × String)}
    {members : List (String × Value)} (listed : attributes.Perm message.attributes.entries)
    (perm : members.Perm (messageMembers message attributes)) :
    decodeMessage (.object members) = .ok message := by
  have payload : decodeBytes (.array (message.payload.map fun byte => .integer byte.toNat)) =
      .ok message.payload := decodeItems_map decodeByte_toNat message.payload
  have item : ∀ text, decodeString (.string text) = .ok text := fun _ => rfl
  have map := decodeMap_of_perm item listed
  have written : MessageDraft.addAll ⟨none, none, none, none⟩ (messageMembers message attributes) =
      .ok ⟨some message.id, some message.subject, some message.payload,
        some message.attributes⟩ := by
    simp only [messageMembers, MessageDraft.addAll, MessageDraft.add, payload, map]
    rfl
  have distinct : ((messageMembers message attributes).map Prod.fst).Nodup := by
    change messageFields.Nodup
    decide
  have read := MessageDraft.addAll_of_perm perm.symm distinct written
  rw [decodeMessage, read]
  rfl

theorem message_roundTrips : RoundTrips decodeMessage encodeMessage :=
  .of_back fun _ => decodeMessage_of_perm (.refl _) (.refl _)

end PullConsumer.Json
