import PullConsumer.Broker.Registry

/-! # Broker groups in use

A registry names objects that it has made, and no object twice (`GroupRegistry.Sound`). So a change
of one object does not show under the name of another.
-/

namespace PullConsumer.GroupRegistry

variable {registry : GroupRegistry} {name other : String} {ref : GroupRef}

/-! ### Changes of an object -/

/-- A changed object reads as changed, and every other object as before. -/
theorem health_change (registry : GroupRegistry) (ref held : GroupRef)
    (update : GroupHealth → GroupHealth) :
    (registry.change ref update).health held =
      if ref.object = held.object then update (registry.health ref) else registry.health held := by
  unfold health
  rw [get?_change]
  split <;> rfl

/-- A change to one group leaves the health of the others alone. -/
theorem health_change_of_ne (registry : GroupRegistry) {held : GroupRef}
    (update : GroupHealth → GroupHealth) (different : ref.object ≠ held.object) :
    (registry.change ref update).health held = registry.health held := by
  rw [health_change, if_neg different]

/-! ### Looking a name up -/

/-- A group is found under its own name. -/
theorem name_of_find? (found : registry.find? name = some ref) : ref.name = name := by
  obtain ⟨object, _, rfl⟩ := Option.map_eq_some_iff.mp found
  rfl

/-- A group that is listed is looked up without a change. -/
theorem lookUp_of_find? (found : registry.find? name = some ref) :
    registry.lookUp name = (registry, ref) := by
  unfold lookUp
  rw [found]

/-- A name that is not in use gets a new object. -/
theorem lookUp_of_absent (absent : registry.find? name = none) :
    registry.lookUp name =
      ({ registry with
          objects := registry.objects.set registry.nextObject (.fresh name)
          nextObject := registry.nextObject + 1
          names := registry.names.insert name registry.nextObject },
        ⟨name, registry.nextObject⟩) := by
  unfold lookUp
  rw [absent]
  rfl

/-- A look-up of an unknown name lists a new group under it. -/
theorem find?_lookUp_of_absent (absent : registry.find? name = none) (other : String) :
    (registry.lookUp name).1.find? other =
      if name = other then some ⟨name, registry.nextObject⟩ else registry.find? other := by
  rw [lookUp_of_absent absent]
  change ((registry.names.insert name registry.nextObject).get? other).map _ = _
  rw [Dictionary.get?_insert]
  split
  · rename_i same
    rw [same]
    rfl
  · rfl

/-- A name that was looked up is in use. -/
theorem find?_lookUp_self (registry : GroupRegistry) (name : String) :
    (registry.lookUp name).1.find? name = some (registry.lookUp name).2 := by
  cases found : registry.find? name with
  | some ref => rw [lookUp_of_find? found, found]
  | none => rw [find?_lookUp_of_absent found, if_pos rfl, lookUp_of_absent found]

/-- A name in use stays with its object while other names are looked up. -/
theorem find?_lookUp (found : registry.find? name = some ref) (other : String) :
    (registry.lookUp other).1.find? name = some ref := by
  cases sought : registry.find? other with
  | some held => rw [lookUp_of_find? sought, found]
  | none =>
      have different : other ≠ name := by
        rintro rfl
        exact Option.some_ne_none ref (found.symm.trans sought)
      rw [find?_lookUp_of_absent sought, if_neg different, found]

/-- An object that is made on first use is available. -/
theorem isAvailable_lookUp (registry : GroupRegistry) (name : String) :
    (registry.lookUp name).1.isAvailable (registry.lookUp name).2 =
      (registry.find? name).all registry.isAvailable := by
  cases found : registry.find? name with
  | some ref => rw [lookUp_of_find? found, Option.all_some]
  | none =>
      rw [lookUp_of_absent found, Option.all_none]
      simp only [isAvailable, health, Table.get?_set, if_true, Option.getD_some, GroupHealth.fresh]

/-! ### Sound registries -/

/-- A registry names objects that it has made, and no object twice. -/
structure Sound (registry : GroupRegistry) : Prop where
  made : ∀ {name ref}, registry.find? name = some ref → ref.object < registry.nextObject
  distinct : ∀ {name other ref held}, registry.find? name = some ref →
    registry.find? other = some held → ref.object = held.object → name = other

theorem sound_empty : empty.Sound where
  made found := absurd found.symm (Option.some_ne_none _)
  distinct found := absurd found.symm (Option.some_ne_none _)

theorem Sound.change (sound : registry.Sound) (ref : GroupRef)
    (update : GroupHealth → GroupHealth) : (registry.change ref update).Sound :=
  ⟨sound.made, sound.distinct⟩

theorem Sound.lookUp (sound : registry.Sound) (name : String) : (registry.lookUp name).1.Sound := by
  cases sought : registry.find? name with
  | some ref =>
      rw [lookUp_of_find? sought]
      exact sound
  | none =>
      have created : (registry.lookUp name).1.nextObject = registry.nextObject + 1 := by
        rw [lookUp_of_absent sought]
      -- A name in use is the new one, or it was in use before.
      have names : ∀ {other ref}, (registry.lookUp name).1.find? other = some ref →
          other = name ∧ ref.object = registry.nextObject ∨ registry.find? other = some ref := by
        intro other ref found
        rw [find?_lookUp_of_absent sought] at found
        split at found
        · rename_i same
          cases found
          exact .inl ⟨same.symm, rfl⟩
        · exact .inr found
      constructor
      · intro other ref found
        rw [created]
        rcases names found with ⟨_, new⟩ | old
        · exact Nat.lt_succ_of_le (Nat.le_of_eq new)
        · exact Nat.lt_succ_of_lt (sound.made old)
      · intro first second ref held found also same
        rcases names found with ⟨here, new⟩ | old
        · rcases names also with ⟨there, _⟩ | before
          · rw [here, there]
          · exact absurd (same.symm.trans new) (Nat.ne_of_lt (sound.made before))
        · rcases names also with ⟨_, new⟩ | before
          · exact absurd (same.trans new) (Nat.ne_of_lt (sound.made old))
          · exact sound.distinct old before same

/-- A removed group is no longer found, and the others are. -/
theorem find?_remove (registry : GroupRegistry) (name other : String) :
    (registry.remove name).find? other = if name = other then none else registry.find? other := by
  simp only [remove, find?, Dictionary.get?_erase]
  split <;> rfl

theorem Sound.remove (sound : registry.Sound) (name : String) : (registry.remove name).Sound := by
  have names : ∀ {other ref}, (registry.remove name).find? other = some ref →
      registry.find? other = some ref := by
    intro other ref found
    rw [find?_remove] at found
    split at found
    · exact nomatch found
    · exact found
  exact ⟨fun found => sound.made (names found), fun found also =>
    sound.distinct (names found) (names also)⟩

theorem Sound.markAvailable (sound : registry.Sound) (name : String) :
    (registry.markAvailable name).Sound :=
  (sound.lookUp name).change (registry.lookUp name).2 fun group => group.setAvailable true

/-! ### Groups out of use -/

/-- A name whose object is not available. -/
structure OutOfUse (registry : GroupRegistry) (group : GroupRef) : Prop where
  listed : registry.find? group.name = some group
  unavailable : registry.isAvailable group = false

variable {group : GroupRef}

/-- A group stays out of use while other groups change. -/
theorem OutOfUse.change_of_ne (out : registry.OutOfUse group) (update : GroupHealth → GroupHealth)
    (different : ref.object ≠ group.object) : (registry.change ref update).OutOfUse group := by
  refine ⟨out.listed, ?_⟩
  rw [isAvailable, health_change_of_ne registry update different]
  exact out.unavailable

/-- A failure keeps a group out of use. -/
theorem OutOfUse.markFailed (out : registry.OutOfUse group) (ref : GroupRef) :
    (registry.markFailed ref).OutOfUse group := by
  by_cases same : ref.object = group.object
  · refine ⟨out.listed, ?_⟩
    rw [GroupRegistry.markFailed, isAvailable, health_change, if_pos same]
    rfl
  · exact out.change_of_ne _ same

/-- A group stays out of use if the one that is made available is another. -/
theorem OutOfUse.setAvailable (out : registry.OutOfUse group) {available : Bool}
    (harmless : available = true → ref.object ≠ group.object) :
    (registry.setAvailable ref available).OutOfUse group := by
  by_cases same : ref.object = group.object
  · refine ⟨out.listed, ?_⟩
    rw [GroupRegistry.setAvailable, isAvailable, health_change, if_pos same]
    exact Bool.eq_false_iff.mpr fun now => harmless now same
  · exact out.change_of_ne _ same

/-- A group stays out of use while any name is looked up. -/
theorem OutOfUse.lookUp (out : registry.OutOfUse group) (sound : registry.Sound) (name : String) :
    (registry.lookUp name).1.OutOfUse group := by
  refine ⟨find?_lookUp out.listed name, ?_⟩
  cases sought : registry.find? name with
  | some ref =>
      rw [lookUp_of_find? sought]
      exact out.unavailable
  | none =>
      have older := Nat.ne_of_gt (sound.made out.listed)
      have kept : (registry.lookUp name).1.health group = registry.health group := by
        rw [lookUp_of_absent sought]
        simp only [health, Table.get?_set, if_neg older]
      rw [isAvailable, kept]
      exact out.unavailable

/-- A group stays out of use if another name is made available. -/
theorem OutOfUse.markAvailable (out : registry.OutOfUse group) (sound : registry.Sound)
    (different : name ≠ group.name) : (registry.markAvailable name).OutOfUse group := by
  have looked := out.lookUp sound name
  refine looked.setAvailable fun _ same => different ?_
  exact (sound.lookUp name).distinct (find?_lookUp_self registry name) looked.listed same

/-- A group stays out of use if another name is removed. -/
theorem OutOfUse.remove (out : registry.OutOfUse group) (different : name ≠ group.name) :
    (registry.remove name).OutOfUse group := by
  refine ⟨?_, out.unavailable⟩
  rw [find?_remove, if_neg different]
  exact out.listed

end PullConsumer.GroupRegistry
