import Mathlib.Data.List.Forall2
import PullConsumer.Proofs.Message
import PullConsumer.Pull.Filter

/-! # What the filter of a request lets pass

The rules of a request read three attributes of a message, each in its own lenient way
(`Message.DeliveredAgain`, `Message.Corrupted`, `Message.Meant`). The filter lets a message pass if
and only if none of them speaks against it, and reads nothing else (`FilterRule.ofRequest_selects`).
-/

namespace PullConsumer

namespace Text

/-- The letters from `A` to `Z` are shifted by 32, and no other character changes. -/
theorem toNat_toLower (c : Char) :
    c.toLower.toNat = if 65 ≤ c.toNat ∧ c.toNat ≤ 90 then c.toNat + 32 else c.toNat := by
  unfold Char.toLower
  split
  · rename_i upper
    have most : c.toNat ≤ 90 := upper.2
    rw [if_pos (show 65 ≤ c.toNat ∧ c.toNat ≤ 90 from upper)]
    change (c.toNat + 32) % 4294967296 = c.toNat + 32
    omega
  · rename_i other
    rw [if_neg (show ¬(65 ≤ c.toNat ∧ c.toNat ≤ 90) from other)]

/-- A lower case letter is shifted back by 32. -/
theorem toNat_toUpper {letter : Char} (lower : 'a' ≤ letter ∧ letter ≤ 'z') :
    letter.toUpper.toNat = letter.toNat - 32 := by
  have least : 97 ≤ letter.toNat := lower.1
  have most : letter.toNat ≤ 122 := lower.2
  unfold Char.toUpper
  split
  · have shift : ('A'.val - 'a'.val).toNat = 4294967264 := by decide
    have value : letter.val.toNat = letter.toNat := rfl
    rw [Char.toNat, UInt32.toNat_add, shift, value]
    omega
  · rename_i other
    exact absurd lower other

/-- A lower-case letter is the lower case of itself and of its upper case only. -/
theorem toLower_eq_iff {c letter : Char} (lower : 'a' ≤ letter ∧ letter ≤ 'z') :
    c.toLower = letter ↔ c = letter ∨ c = letter.toUpper := by
  have least : 97 ≤ letter.toNat := lower.1
  have most : letter.toNat ≤ 122 := lower.2
  rw [← Char.toNat_inj, ← Char.toNat_inj, ← Char.toNat_inj, toNat_toLower, toNat_toUpper lower]
  split <;> omega

/-- A list of lower-case letters is the lower case of the lists that have each of them in either
case. -/
theorem map_toLower_eq_iff {cs letters : List Char}
    (lower : ∀ letter ∈ letters, 'a' ≤ letter ∧ letter ≤ 'z') :
    cs.map Char.toLower = letters ↔
      List.Forall₂ (fun c letter => c = letter ∨ c = letter.toUpper) cs letters := by
  induction letters generalizing cs with
  | nil => rw [List.map_eq_nil_iff, List.forall₂_nil_right_iff]
  | cons letter rest ih =>
      obtain ⟨first, others⟩ := List.forall_mem_cons.mp lower
      cases cs with
      | nil => exact ⟨nofun, nofun⟩
      | cons c cs =>
          rw [List.map_cons, List.cons.injEq, List.forall₂_cons, toLower_eq_iff first, ih others]

/-- A text that is the word true with every letter in either case. -/
def SpellsTrue (text : String) : Prop :=
  List.Forall₂ (fun c letter => c = letter ∨ c = letter.toUpper) text.toList ['t', 'r', 'u', 'e']

end Text

namespace Message

variable {message twin : Message} {group : String}

/-- The delivery count of a message spells a number of 32 bits that is greater than 1. -/
def DeliveredAgain (message : Message) : Prop :=
  ∃ text count, message.property? MessageKey.times.name = some text ∧
    Text.Numeral.Natural text count ∧ count < 2 ^ 32 ∧ 1 < count

/-- The corruption mark of a message spells true. -/
def Corrupted (message : Message) : Prop :=
  ∃ text, message.property? MessageKey.corruptData.name = some text ∧ Text.SpellsTrue text

/-- A message names no consumer group but the given one. -/
def Meant (message : Message) (group : String) : Prop :=
  message.property? MessageKey.consumerGroupName.name ∈ [none, some "", some group]

/-- A text equals `true` but for the case if it spells it. -/
theorem equalIgnoringCase_true_iff {text : String} :
    equalIgnoringCase text "true" = true ↔ Text.SpellsTrue text := by
  have word : "true".toList.map Char.toLower = ['t', 'r', 'u', 'e'] := by decide
  have lower : ∀ letter ∈ ['t', 'r', 'u', 'e'], 'a' ≤ letter ∧ letter ≤ 'z' := by
    intro letter member
    simp only [List.mem_cons, List.not_mem_nil, or_false] at member
    rcases member with rfl | rfl | rfl | rfl <;> decide
  rw [equalIgnoringCase, beq_iff_eq, word]
  exact Text.map_toLower_eq_iff lower

/-- A message is corrupted exactly if its attribute says so. -/
theorem isCorrupted_iff : message.isCorrupted = true ↔ message.Corrupted := by
  unfold isCorrupted flag Corrupted
  cases message.property? MessageKey.corruptData.name with
  | none => exact ⟨nofun, fun ⟨_, absent, _⟩ => nomatch absent⟩
  | some text =>
      simp only [Option.elim_some, equalIgnoringCase_true_iff, Option.some.injEq,
        exists_eq_left']

/-- A message was delivered once unless its delivery count spells more. -/
theorem one_lt_times_iff : 1 < message.times ↔ message.DeliveredAgain := by
  constructor
  · intro again
    rcases times_eq_iff.mp rfl with ⟨text, found, natural, fits⟩ | ⟨once, _⟩
    · exact ⟨text, message.times, found, natural, fits, again⟩
    · exact absurd once (Nat.ne_of_gt again)
  · rintro ⟨text, count, found, natural, fits, again⟩
    rw [times_eq_iff.mpr (.inl ⟨text, found, natural, fits⟩)]
    exact again

/-- A message without a target group, or with this one, is meant for the group. -/
theorem targetGroup?_all_iff :
    message.targetGroup?.all (· = group) = true ↔ message.Meant group := by
  unfold targetGroup? Meant
  cases message.property? MessageKey.consumerGroupName.name with
  | none => simp
  | some target => by_cases empty : target = "" <;> simp [Option.filter, empty]

end Message

namespace FilterRule

open Message

variable {request other : PullRequest} {message twin : Message}

/-- The three rules accept a message together exactly if it passes each of them. -/
theorem allAccept_ofRequest :
    allAccept (ofRequest request) message = true ↔
      ¬ (request.consume.mostOnce = true ∧ message.DeliveredAgain) ∧ ¬ message.Corrupted ∧
        message.Meant request.consume.group := by
  rw [← one_lt_times_iff, ← isCorrupted_iff, ← targetGroup?_all_iff]
  unfold allAccept ofRequest
  cases request.consume.mostOnce <;> simp [accepts]

/-- What the filter of a request says of every message. -/
structure Selects (request : PullRequest) : Prop where
  /-- A message passes if and only if it is not delivered again where that is forbidden, not
  corrupted, and meant for the consumer group. -/
  verdict : ∀ message : Message, allAccept (ofRequest request) message = true ↔
    ¬ (request.consume.mostOnce = true ∧ message.DeliveredAgain) ∧ ¬ message.Corrupted ∧
      message.Meant request.consume.group
  /-- The verdict reads three attributes of the message, and of the request the consumer group and
  whether delivery is at most once. -/
  reads : ∀ (other : PullRequest) (message twin : Message),
    other.consume.mostOnce = request.consume.mostOnce →
    other.consume.group = request.consume.group →
    (∀ key ∈ [MessageKey.times, .corruptData, .consumerGroupName],
      twin.property? key.name = message.property? key.name) →
    allAccept (ofRequest other) twin = allAccept (ofRequest request) message
  /-- Delivery at most once only takes messages away. -/
  stricter : ∀ (other : PullRequest) (message : Message),
    other.consume.group = request.consume.group → other.consume.mostOnce = true →
    allAccept (ofRequest other) message = true → allAccept (ofRequest request) message = true

/-- What a request filters is what `Selects` states. -/
theorem ofRequest_selects (request : PullRequest) : Selects request where
  verdict _ := allAccept_ofRequest
  reads other message twin once group same := by
    rw [Bool.eq_iff_iff, allAccept_ofRequest, allAccept_ofRequest]
    unfold DeliveredAgain Corrupted Meant
    rw [once, group, same .times (by simp), same .corruptData (by simp),
      same .consumerGroupName (by simp)]
  stricter other message group once passes := by
    rw [allAccept_ofRequest] at passes ⊢
    obtain ⟨first, sound, meant⟩ := passes
    exact ⟨fun both => first ⟨once, both.2⟩, sound, group ▸ meant⟩

end FilterRule

end PullConsumer
