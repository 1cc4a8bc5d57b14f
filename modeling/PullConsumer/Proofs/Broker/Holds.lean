import Mathlib.Data.List.Induction
import PullConsumer.Proofs.Broker.Registry

/-! # Holds on health objects

A hold on an object that was made under its name (`GroupRegistry.Knows`) stays one, and shares the
object with no other hold (`GroupRegistry.Knows.eq`). What a hold reads is what happened to the
object since it was made (`GroupHealth.foldl_apply`).
-/

namespace PullConsumer

namespace GroupRegistry

variable {registry : GroupRegistry} {name : String} {ref held : GroupRef}

/-- A hold on an object that was made under the name of the hold. -/
def Knows (registry : GroupRegistry) (ref : GroupRef) : Prop :=
  ∃ health, registry.objects.get? ref.object = some health ∧ health.name = ref.name

/-- Holds on one object are equal. -/
theorem Knows.eq (knows : registry.Knows ref) (also : registry.Knows held)
    (same : ref.object = held.object) : ref = held := by
  obtain ⟨health, here, named⟩ := knows
  obtain ⟨other, there, called⟩ := also
  rw [same, there] at here
  cases here
  cases ref
  cases held
  cases same
  cases named.symm.trans called
  rfl

/-- A reference that a registry knows leads to a health object. -/
theorem Knows.health (knows : registry.Knows ref) :
    registry.objects.get? ref.object = some (registry.health ref) := by
  obtain ⟨health, here, _⟩ := knows
  rw [GroupRegistry.health, here, Option.getD_some]

/-- A change to one object leaves the others known by their names. -/
theorem Knows.change (knows : registry.Knows held) (ref : GroupRef)
    {update : GroupHealth → GroupHealth} (kept : ∀ group, (update group).name = group.name) :
    (registry.change ref update).Knows held := by
  obtain ⟨health, here, named⟩ := knows
  unfold Knows
  rw [get?_change]
  split
  · rename_i same
    refine ⟨_, rfl, (kept _).trans ?_⟩
    rw [GroupRegistry.health, same, here]
    exact named
  · exact ⟨health, here, named⟩

/-- What is known after a change was known before. -/
theorem Knows.of_change {update : GroupHealth → GroupHealth}
    (knows : (registry.change ref update).Knows held) (changed : registry.Knows ref)
    (kept : ∀ group, (update group).name = group.name) : registry.Knows held := by
  obtain ⟨health, here, named⟩ := knows
  rw [get?_change] at here
  split at here
  · rename_i same
    cases here
    refine ⟨registry.health ref, same ▸ changed.health, ?_⟩
    exact (kept _).symm.trans named
  · exact ⟨health, here, named⟩

/-- Numbers from the next one on are free for new objects. -/
def Numbered (registry : GroupRegistry) : Prop :=
  ∀ object, registry.nextObject ≤ object → registry.objects.get? object = none

/-- A name that is looked up gets a new object if it has none; all other objects stay. -/
theorem get?_lookUp (registry : GroupRegistry) (name : String) (object : Nat) :
    (registry.lookUp name).1.objects.get? object =
      if registry.find? name = none ∧ (registry.lookUp name).2.object = object then
        some (.fresh name)
      else registry.objects.get? object := by
  cases found : registry.find? name with
  | some ref => simp only [lookUp_of_find? found, reduceCtorEq, false_and, if_false]
  | none => simp only [lookUp_of_absent found, Table.get?_set, true_and]

/-- A name that was looked up leads to the reference of the look-up, and the others lead where they
did. -/
theorem find?_lookUp_eq (registry : GroupRegistry) (name other : String) :
    (registry.lookUp name).1.find? other =
      if name = other then some (registry.lookUp name).2 else registry.find? other := by
  by_cases same : name = other
  · subst same
    rw [if_pos rfl, find?_lookUp_self]
  · rw [if_neg same]
    cases found : registry.find? name with
    | some ref => rw [lookUp_of_find? found]
    | none => rw [find?_lookUp_of_absent found, if_neg same]

/-- A known object is older than the next one. -/
theorem Numbered.ne (numbered : registry.Numbered) (knows : registry.Knows ref) :
    ref.object ≠ registry.nextObject := by
  intro same
  obtain ⟨health, here, _⟩ := knows
  rw [same, numbered _ (Nat.le_refl _)] at here
  exact nomatch here

/-- A look-up uses the next number up. -/
theorem Numbered.lookUp (numbered : registry.Numbered) (name : String) :
    (registry.lookUp name).1.Numbered := by
  cases found : registry.find? name with
  | some ref =>
      rw [lookUp_of_find? found]
      exact numbered
  | none =>
      intro object above
      rw [lookUp_of_absent found] at above ⊢
      rw [Table.get?_set, if_neg (Nat.ne_of_lt above)]
      exact numbered object (Nat.le_of_succ_le above)

/-- A look-up leaves what is known known. -/
theorem Knows.lookUp (knows : registry.Knows held) (numbered : registry.Numbered) (name : String) :
    (registry.lookUp name).1.Knows held := by
  unfold Knows
  rw [get?_lookUp, if_neg]
  · exact knows
  · rintro ⟨absent, same⟩
    rw [lookUp_of_absent absent] at same
    exact numbered.ne knows same.symm

/-- The hold that a look-up obtains is on an object that the registry has made. -/
theorem knows_lookUp (known : ∀ {held}, registry.find? name = some held → registry.Knows held) :
    (registry.lookUp name).1.Knows (registry.lookUp name).2 := by
  cases found : registry.find? name with
  | some ref =>
      rw [lookUp_of_find? found]
      exact known found
  | none =>
      rw [lookUp_of_absent found]
      exact ⟨.fresh name, (Table.get?_set ..).trans (if_pos rfl), rfl⟩

/-- An object that a look-up makes is available and has not failed. -/
theorem health_lookUp_of_absent (absent : registry.find? name = none) :
    (registry.lookUp name).1.health (registry.lookUp name).2 = .fresh name := by
  rw [GroupRegistry.health, get?_lookUp, if_pos ⟨absent, rfl⟩, Option.getD_some]

/-- A change to a known object uses no number up. -/
theorem Numbered.change (numbered : registry.Numbered) (knows : registry.Knows ref)
    (update : GroupHealth → GroupHealth) : (registry.change ref update).Numbered := by
  intro object above
  obtain ⟨health, here, _⟩ := knows
  rw [get?_change, if_neg]
  · exact numbered object above
  · rintro rfl
    exact nomatch here.symm.trans (numbered _ above)

end GroupRegistry

/-- What can happen to a health object. -/
inductive GroupHealth.Change
  | made
  | failed
  | set (available : Bool)
deriving DecidableEq

namespace GroupHealth

/-- Whether a change leaves a group available and without failures. -/
def Change.recovers : Change → Bool
  | .made | .set true => true
  | _ => false

def apply (group : GroupHealth) : Change → GroupHealth
  | .made => .fresh group.name
  | .failed => group.markFailed
  | .set available => group.setAvailable available

/-- How often a group has failed since it was made or last made available. -/
def failuresIn (changes : List Change) : Nat :=
  (changes.reverse.takeWhile (!·.recovers)).count .failed

/-- Whether a group is available: the last change that happened to it says so. -/
def availableAfter (changes : List Change) : Bool :=
  changes.getLast?.all Change.recovers

/-- A further failure counts if the group has not recovered since. -/
theorem failuresIn_concat (changes : List Change) (change : Change) :
    failuresIn (changes ++ [change]) =
      if change.recovers then 0 else failuresIn changes + if change = .failed then 1 else 0 := by
  unfold failuresIn
  rw [List.reverse_append, List.reverse_singleton, List.singleton_append, List.takeWhile_cons]
  cases change with
  | made => rfl
  | failed => simp [Change.recovers]
  | set available => cases available <;> simp [Change.recovers]

/-- A group that is available has not failed since it was made or last made available. -/
theorem failuresIn_of_available {changes : List Change}
    (available : availableAfter changes = true) : failuresIn changes = 0 := by
  cases changes using List.reverseRecOn with
  | nil => rfl
  | append_singleton earlier change =>
      unfold availableAfter at available
      rw [List.getLast?_concat, Option.all_some] at available
      rw [failuresIn_concat, if_pos available]

/-- The health of a group is read off what happened to it. -/
theorem foldl_apply (name : String) (changes : List Change) :
    changes.foldl apply (.fresh name) =
      ⟨name, availableAfter changes, .ofNat (failuresIn changes)⟩ := by
  induction changes using List.reverseRecOn with
  | nil => rfl
  | append_singleton earlier change ih =>
      rw [List.foldl_append, ih, failuresIn_concat]
      unfold availableAfter
      rw [List.getLast?_concat, Option.all_some]
      cases change with
      | made => rfl
      | failed =>
          simp only [Change.recovers, if_true, Bool.false_eq_true, if_false, UInt32.ofNat_add]
          rfl
      | set available => cases available <;> rfl

end GroupHealth

end PullConsumer
