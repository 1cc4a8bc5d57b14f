import PullConsumer.Client.Step
import PullConsumer.Proofs.Broker.Holds
import PullConsumer.Proofs.Dictionary

/-! # Shared health objects

Whoever looks a name up takes hold of the one object in use under it, and keeps that hold when the
name is taken out of use. However a registry and the holds on its objects are used, in any order, a
name is a name of one object, an object is touched through the holds on it and under its name only,
and its health is read off what happened to it (`Sharing.run_shared`).
-/

namespace PullConsumer

/-- A registry in use, with the holds on its objects that were obtained so far, the earliest first.
All copies of a registry are one. -/
structure Sharing where
  registry : GroupRegistry
  holds : List GroupRef

namespace Sharing

open GroupRegistry

/-- What can be done with a registry, and with a hold by its place among those obtained. -/
inductive Use
  /-- Takes hold of the object of a name, which is made on first use. -/
  | lookUp (name : String)
  /-- Takes hold of the object of a name, if there is one. -/
  | find (name : String)
  /-- Makes the group of a name available. -/
  | announce (name : String)
  /-- Takes a name out of use and keeps hold of its object. -/
  | remove (name : String)
  | fail (hold : Nat)
  | setAvailable (hold : Nat) (available : Bool)
deriving DecidableEq

/-- A new registry, of which nothing was asked yet. -/
def empty : Sharing := ⟨.empty, []⟩

/-- Does something to the object of a hold, if there is such a hold. -/
def through (sharing : Sharing) (hold : Nat) (change : GroupRef → GroupRegistry) : GroupRegistry :=
  (sharing.holds[hold]?).elim sharing.registry change

/-- The name that a use brings into use. -/
def Use.brought? : Use → Option String
  | .lookUp name | .announce name => some name
  | _ => none

/-- The registry after a use. -/
def after (sharing : Sharing) : Use → GroupRegistry
  | .lookUp name => (sharing.registry.lookUp name).1
  | .find _ => sharing.registry
  | .announce name => sharing.registry.markAvailable name
  | .remove name => sharing.registry.remove name
  | .fail hold => sharing.through hold sharing.registry.markFailed
  | .setAvailable hold available =>
    sharing.through hold fun ref => sharing.registry.setAvailable ref available

/-- The hold that a use obtains. -/
def obtained? (sharing : Sharing) : Use → Option GroupRef
  | .lookUp name => some (sharing.registry.lookUp name).2
  | .find name | .remove name => sharing.registry.find? name
  | _ => none

/-- What a use logs. -/
def logged (sharing : Sharing) : Use → List Effect
  | .announce name => World.announceNotices sharing.registry name
  | .fail hold => (sharing.holds[hold]?).elim [] (World.failureNotices sharing.registry)
  | _ => []

def step (sharing : Sharing) (use : Use) : Sharing :=
  ⟨sharing.after use, sharing.holds ++ (sharing.obtained? use).toList⟩

/-- The state after a list of uses. -/
def run (sharing : Sharing) (uses : List Use) : Sharing :=
  uses.foldl step sharing

variable {sharing : Sharing} {name other : String} {ref held : GroupRef} {use : Use}
  {uses : List Use}

theorem run_append (sharing : Sharing) (first second : List Use) :
    sharing.run (first ++ second) = (sharing.run first).run second :=
  List.foldl_append

/-- Uses only add to the holds. -/
theorem holds_run (sharing : Sharing) (uses : List Use) :
    ∃ new, (sharing.run uses).holds = sharing.holds ++ new := by
  induction uses generalizing sharing with
  | nil => exact ⟨[], (List.append_nil _).symm⟩
  | cons use rest ih =>
      obtain ⟨new, grown⟩ := ih (sharing.step use)
      exact ⟨(sharing.obtained? use).toList ++ new, grown.trans (List.append_assoc ..)⟩

/-- A hold stays in its place. -/
theorem getElem?_holds_run {hold : Nat} (own : sharing.holds[hold]? = some ref)
    (uses : List Use) : (sharing.run uses).holds[hold]? = some ref := by
  obtain ⟨new, grown⟩ := holds_run sharing uses
  rw [grown]
  exact List.getElem?_append_left (List.getElem?_eq_some_iff.mp own).1 ▸ own

/-! ### Holds -/

/-- The holds that were obtained, and those that a look-up would obtain. -/
def Holds (sharing : Sharing) (ref : GroupRef) : Prop :=
  ref ∈ sharing.holds ∨ sharing.registry.find? ref.name = some ref

/-- All holds are on objects that were made under their names. -/
structure Consistent (sharing : Sharing) : Prop where
  numbered : sharing.registry.Numbered
  knows : ∀ {ref}, sharing.Holds ref → sharing.registry.Knows ref

theorem consistent_empty : empty.Consistent where
  numbered _ _ := rfl
  knows holds := by
    rcases holds with member | found
    · exact absurd member List.not_mem_nil
    · exact nomatch found

/-- A hold stays a hold on an object that the registry has made. -/
theorem Consistent.knows_after (consistent : sharing.Consistent)
    (knows : sharing.registry.Knows held) (use : Use) : (sharing.after use).Knows held := by
  have through : ∀ hold (update : GroupHealth → GroupHealth),
      (∀ group, (update group).name = group.name) →
      (sharing.through hold fun ref => sharing.registry.change ref update).Knows held := by
    intro hold update kept
    unfold Sharing.through
    cases sharing.holds[hold]? with
    | none => exact knows
    | some ref => exact knows.change ref kept
  cases use with
  | lookUp name => exact knows.lookUp consistent.numbered name
  | find | remove => exact knows
  | announce name => exact (knows.lookUp consistent.numbered name).change _ fun _ => rfl
  | fail hold => exact through hold _ fun _ => rfl
  | setAvailable hold available => exact through hold _ fun _ => rfl

/-- A use of a hold leaves alone which object a name stands for. -/
theorem find?_through (sharing : Sharing) (hold : Nat) (update : GroupHealth → GroupHealth)
    (name : String) :
    (sharing.through hold fun ref => sharing.registry.change ref update).find? name =
      sharing.registry.find? name := by
  unfold Sharing.through
  cases sharing.holds[hold]? <;> rfl

/-- A use brings a name into use, or takes one out of use, and leaves all others. -/
theorem find?_after (sharing : Sharing) (use : Use) (other : String) :
    (sharing.after use).find? other =
      if use.brought? = some other then some (sharing.registry.lookUp other).2
      else if use = .remove other then none else sharing.registry.find? other := by
  have brings : ∀ name, (sharing.registry.lookUp name).1.find? other =
      if some name = some other then some (sharing.registry.lookUp other).2
      else sharing.registry.find? other := by
    intro name
    rw [find?_lookUp_eq]
    by_cases same : name = other
    · rw [same, if_pos rfl, if_pos rfl]
    · rw [if_neg same, if_neg fun equal => same (Option.some.inj equal)]
  cases use with
  | lookUp name | announce name =>
      simp only [Use.brought?, reduceCtorEq, if_false]
      exact brings name
  | find => simp [Use.brought?, Sharing.after]
  | remove name =>
      simp only [Use.brought?, Sharing.after, find?_remove, reduceCtorEq, if_false,
        Use.remove.injEq]
  | fail | setAvailable =>
      simp only [Use.brought?, reduceCtorEq, if_false]
      exact find?_through ..

/-- The object that a name stands for was made under it. -/
theorem Consistent.named (consistent : sharing.Consistent)
    (found : sharing.registry.find? name = some ref) : sharing.registry.Knows ref := by
  refine consistent.knows (.inr ?_)
  rw [name_of_find? found]
  exact found

/-- What a use obtains, or brings into use, is an object that the registry has made. -/
theorem Consistent.step (consistent : sharing.Consistent) (use : Use) :
    (sharing.step use).Consistent := by
  have looked : ∀ name, (sharing.registry.lookUp name).1.Knows (sharing.registry.lookUp name).2 :=
    fun name => knows_lookUp consistent.named
  have brought : ∀ name, use.brought? = some name →
      (sharing.after use).Knows (sharing.registry.lookUp name).2 := by
    intro name brings
    cases use with
    | lookUp other =>
        cases brings
        exact looked name
    | announce other =>
        cases brings
        exact (looked name).change _ fun _ => rfl
    | _ => cases brings
  have names : ∀ {name ref}, (sharing.after use).find? name = some ref →
      (sharing.after use).Knows ref := by
    intro name ref found
    rw [find?_after] at found
    split at found
    · rename_i brings
      cases found
      exact brought name brings
    · split at found
      · exact nomatch found
      · exact consistent.knows_after (consistent.named found) use
  refine ⟨?_, fun holds => ?_⟩
  · have through : ∀ hold (update : GroupHealth → GroupHealth),
        (sharing.through hold fun ref => sharing.registry.change ref update).Numbered := by
      intro hold update
      unfold Sharing.through
      cases held : sharing.holds[hold]? with
      | none => exact consistent.numbered
      | some ref =>
          exact consistent.numbered.change
            (consistent.knows (.inl (List.mem_of_getElem? held))) update
    cases use with
    | lookUp name => exact consistent.numbered.lookUp name
    | find | remove => exact consistent.numbered
    | announce name => exact (consistent.numbered.lookUp name).change (looked name) _
    | fail hold => exact through hold _
    | setAvailable hold available => exact through hold _
  · rcases holds with member | found
    · rcases List.mem_append.mp member with old | new
      · exact consistent.knows_after (consistent.knows (.inl old)) use
      · have obtained : sharing.obtained? use = some _ := Option.mem_toList.mp new
        cases use with
        | lookUp name =>
            cases obtained
            exact looked name
        | find | remove => exact consistent.named obtained
        | announce | fail | setAvailable => exact nomatch obtained
    · exact names found

/-- Every list of uses keeps the holds on objects that were made under their names. -/
theorem Consistent.run (consistent : sharing.Consistent) (uses : List Use) :
    (sharing.run uses).Consistent := by
  induction uses generalizing sharing with
  | nil => exact consistent
  | cons use rest ih => exact ih (consistent.step use)

/-! ### What happens to an object -/

/-- The making of the object of a hold by a look-up. -/
def makes (sharing : Sharing) (name : String) (held : GroupRef) : List GroupHealth.Change :=
  if sharing.registry.find? name = none ∧ (sharing.registry.lookUp name).2 = held then [.made]
  else []

/-- What a use does to the object of a hold. -/
def changesIn (sharing : Sharing) (held : GroupRef) : Use → List GroupHealth.Change
  | .lookUp name => sharing.makes name held
  | .announce name => sharing.makes name held ++
      if (sharing.registry.lookUp name).2 = held then [.set true] else []
  | .fail hold => if sharing.holds[hold]? = some held then [.failed] else []
  | .setAvailable hold available =>
      if sharing.holds[hold]? = some held then [.set available] else []
  | .find _ | .remove _ => []

/-- What happened to the object of a hold over a list of uses, in order. -/
def changes (held : GroupRef) : Sharing → List Use → List GroupHealth.Change
  | _, [] => []
  | sharing, use :: rest => sharing.changesIn held use ++ changes held (sharing.step use) rest

/-- A change through one hold shows through every hold on the object, and through no other. -/
theorem health_change_eq {registry : GroupRegistry} (knows : registry.Knows ref)
    (also : registry.Knows held) (update : GroupHealth → GroupHealth) :
    (registry.change ref update).health held =
      if ref = held then update (registry.health held) else registry.health held := by
  rw [health_change]
  by_cases same : ref = held
  · rw [if_pos (congrArg GroupRef.object same), if_pos same, same]
  · rw [if_neg fun objects => same (knows.eq also objects), if_neg same]

/-- A look-up makes the object of a name that is not in use, and touches no other. -/
theorem Consistent.health_lookUp (consistent : sharing.Consistent) (name : String)
    (knows : (sharing.registry.lookUp name).1.Knows held) :
    (sharing.registry.lookUp name).1.health held =
      (sharing.makes name held).foldl GroupHealth.apply (sharing.registry.health held) := by
  unfold makes
  cases found : sharing.registry.find? name with
  | some ref => simp [lookUp_of_find? found]
  | none =>
      have new : (sharing.registry.lookUp name).1.Knows (sharing.registry.lookUp name).2 :=
        knows_lookUp fun named => consistent.named named
      by_cases same : (sharing.registry.lookUp name).2 = held
      · subst same
        have unmade := consistent.numbered _ (Nat.le_refl sharing.registry.nextObject)
        rw [if_pos ⟨rfl, rfl⟩, health_lookUp_of_absent found, lookUp_of_absent found,
          GroupRegistry.health, unmade]
        rfl
      · rw [if_neg fun both => same both.2, List.foldl_nil, GroupRegistry.health, get?_lookUp,
          if_neg fun both => same (new.eq knows both.2)]
        rfl

/-- The health that a hold reads after a use is what the use made of it. -/
theorem Consistent.health_after (consistent : sharing.Consistent) (use : Use)
    (knows : (sharing.after use).Knows held) :
    (sharing.after use).health held =
      (sharing.changesIn held use).foldl GroupHealth.apply (sharing.registry.health held) := by
  have through : ∀ hold (change : GroupHealth.Change),
      (∀ group, (GroupHealth.apply group change).name = group.name) →
      (sharing.through hold fun ref => sharing.registry.change ref (·.apply change)).Knows held →
      (sharing.through hold fun ref => sharing.registry.change ref (·.apply change)).health held =
        (if sharing.holds[hold]? = some held then [change] else []).foldl GroupHealth.apply
          (sharing.registry.health held) := by
    intro hold change kept knows
    unfold Sharing.through at knows ⊢
    cases own : sharing.holds[hold]? with
    | none => rfl
    | some ref =>
        have known := consistent.knows (.inl (List.mem_of_getElem? own))
        rw [own, Option.elim_some] at knows
        rw [Option.elim_some, health_change_eq known (knows.of_change known kept)]
        by_cases same : ref = held
        · rw [if_pos same, if_pos (congrArg some same)]
          rfl
        · rw [if_neg same, if_neg fun equal => same (Option.some.inj equal)]
          rfl
  cases use with
  | lookUp name => exact consistent.health_lookUp name knows
  | find | remove => rfl
  | announce name =>
      have looked : (sharing.registry.lookUp name).1.Knows (sharing.registry.lookUp name).2 :=
        knows_lookUp fun named => consistent.named named
      have kept : ∀ group : GroupHealth, (group.setAvailable true).name = group.name := fun _ => rfl
      have before : (sharing.registry.lookUp name).1.Knows held :=
        Knows.of_change knows looked kept
      have told : sharing.changesIn held (.announce name) = sharing.makes name held ++
        if (sharing.registry.lookUp name).2 = held then [.set true] else [] := rfl
      rw [told, List.foldl_append, ← consistent.health_lookUp name before]
      refine (health_change_eq looked before _).trans ?_
      split <;> rfl
  | fail hold => exact through hold .failed (fun _ => rfl) knows
  | setAvailable hold available => exact through hold (.set available) (fun _ => rfl) knows

theorem changesIn_fail {hold : Nat} (own : sharing.holds[hold]? = some ref) :
    sharing.changesIn held (.fail hold) = if some ref = some held then [.failed] else [] := by
  rw [changesIn, own]

theorem changesIn_setAvailable {hold : Nat} (own : sharing.holds[hold]? = some ref)
    (available : Bool) :
    sharing.changesIn held (.setAvailable hold available) =
      if some ref = some held then [.set available] else [] := by
  rw [changesIn, own]

theorem changesIn_announce (found : sharing.registry.find? name = some ref) :
    sharing.changesIn held (.announce name) =
      if some ref = some held then [.set true] else [] := by
  simp [changesIn, makes, found, lookUp_of_find? found]

/-- A use that touches one object shows through every hold on it, and through no other. -/
theorem Consistent.health_touched (consistent : sharing.Consistent)
    (knows : sharing.registry.Knows held) {change : GroupHealth.Change}
    (touches : sharing.changesIn held use = if some ref = some held then [change] else []) :
    (sharing.step use).registry.health held =
      if ref = held then (sharing.registry.health held).apply change
      else sharing.registry.health held := by
  refine (consistent.health_after use (consistent.knows_after knows use)).trans ?_
  rw [touches]
  by_cases same : ref = held
  · rw [if_pos (congrArg some same), if_pos same]
    rfl
  · rw [if_neg fun equal => same (Option.some.inj equal), if_neg same]
    rfl

/-- The object of a hold was made before a use, or the use makes it. -/
theorem Consistent.known_before (consistent : sharing.Consistent)
    (knows : (sharing.after use).Knows held) :
    sharing.registry.Knows held ∨ sharing.registry.objects.get? held.object = none := by
  have through : ∀ hold (update : GroupHealth → GroupHealth),
      (∀ group, (update group).name = group.name) →
      (sharing.through hold fun ref => sharing.registry.change ref update).Knows held →
      sharing.registry.Knows held := by
    intro hold update kept knows
    unfold Sharing.through at knows
    cases own : sharing.holds[hold]? with
    | none =>
        rw [own] at knows
        exact knows
    | some ref =>
        rw [own, Option.elim_some] at knows
        exact knows.of_change (consistent.knows (.inl (List.mem_of_getElem? own))) kept
  have looked : ∀ name, (sharing.registry.lookUp name).1.Knows held →
      sharing.registry.Knows held ∨ sharing.registry.objects.get? held.object = none := by
    intro name knows
    unfold Knows at knows
    rw [get?_lookUp] at knows
    split at knows
    · rename_i both
      obtain ⟨absent, same⟩ := both
      rw [lookUp_of_absent absent] at same
      exact .inr (consistent.numbered _ (Nat.le_of_eq same))
    · exact .inl knows
  cases use with
  | lookUp name => exact looked name knows
  | find | remove => exact .inl knows
  | announce name =>
      have kept : ∀ group : GroupHealth, (group.setAvailable true).name = group.name := fun _ => rfl
      have met : (sharing.registry.lookUp name).1.Knows (sharing.registry.lookUp name).2 :=
        knows_lookUp fun named => consistent.named named
      exact looked name (Knows.of_change knows met kept)
  | fail hold => exact .inl (through hold GroupHealth.markFailed (fun _ => rfl) knows)
  | setAvailable hold available =>
      exact .inl (through hold (·.setAvailable available) (fun _ => rfl) knows)

/-- Nothing happens to an object before it is made. -/
theorem unmade_before (unmade : (sharing.after use).objects.get? held.object = none) :
    sharing.registry.objects.get? held.object = none ∧ sharing.changesIn held use = [] := by
  have through : ∀ hold (update : GroupHealth → GroupHealth) (change : GroupHealth.Change),
      (sharing.through hold fun ref => sharing.registry.change ref update).objects.get?
        held.object = none →
      sharing.registry.objects.get? held.object = none ∧
        (if sharing.holds[hold]? = some held then [change] else []) = [] := by
    intro hold update change unmade
    unfold Sharing.through at unmade
    cases own : sharing.holds[hold]? with
    | none =>
        rw [own] at unmade
        exact ⟨unmade, rfl⟩
    | some ref =>
        rw [own, Option.elim_some, get?_change] at unmade
        split at unmade
        · exact nomatch unmade
        · rename_i different
          refine ⟨unmade, if_neg fun same => different ?_⟩
          exact congrArg GroupRef.object (Option.some.inj same)
  have looked : ∀ name, (sharing.registry.lookUp name).1.objects.get? held.object = none →
      sharing.registry.objects.get? held.object = none ∧ sharing.makes name held = [] := by
    intro name unmade
    rw [get?_lookUp] at unmade
    split at unmade
    · exact nomatch unmade
    · rename_i kept
      refine ⟨unmade, if_neg ?_⟩
      rintro ⟨absent, same⟩
      exact kept ⟨absent, congrArg GroupRef.object same⟩
  cases use with
  | lookUp name => exact looked name unmade
  | find | remove => exact ⟨unmade, rfl⟩
  | announce name =>
      have changed := get?_change (sharing.registry.lookUp name).1
        (sharing.registry.lookUp name).2 (·.setAvailable true) held.object
      have gone : ((sharing.registry.lookUp name).1.change (sharing.registry.lookUp name).2
          (·.setAvailable true)).objects.get? held.object = none := unmade
      rw [gone] at changed
      split at changed
      · exact nomatch changed
      · rename_i different
        obtain ⟨before, unmakes⟩ := looked name changed.symm
        refine ⟨before, ?_⟩
        rw [changesIn, unmakes, if_neg fun same => different (congrArg GroupRef.object same)]
        rfl
  | fail hold => exact through hold GroupHealth.markFailed .failed unmade
  | setAvailable hold available =>
      exact through hold (·.setAvailable available) (.set available) unmade

theorem changes_append (held : GroupRef) (sharing : Sharing) (first second : List Use) :
    changes held sharing (first ++ second) =
      changes held sharing first ++ changes held (sharing.run first) second := by
  induction first generalizing sharing with
  | nil => rfl
  | cons use rest ih =>
      rw [List.cons_append, changes, changes, ih, List.append_assoc]
      rfl

/-- The last of a list of uses starts from where the others lead. -/
theorem run_concat (sharing : Sharing) (uses : List Use) (use : Use) :
    sharing.run (uses ++ [use]) = (sharing.run uses).step use :=
  run_append sharing uses [use]

/-- An object that has not been made by the end has not been changed on the way. -/
theorem changes_of_unmade
    (unmade : (sharing.run uses).registry.objects.get? held.object = none) :
    changes held sharing uses = [] := by
  induction uses using List.reverseRecOn with
  | nil => rfl
  | append_singleton earlier use ih =>
      rw [run_concat] at unmade
      obtain ⟨before, silent⟩ := unmade_before unmade
      rw [changes_append, ih before, changes, silent]
      rfl

/-- What a hold reads is what happened to its object since it was made. -/
theorem health_run (uses : List Use) (knows : (empty.run uses).registry.Knows held) :
    (empty.run uses).registry.health held =
      (changes held empty uses).foldl GroupHealth.apply (.fresh held.name) := by
  induction uses using List.reverseRecOn with
  | nil =>
      obtain ⟨health, here, _⟩ := knows
      exact nomatch here
  | append_singleton earlier use ih =>
      rw [run_concat] at knows ⊢
      have consistent := consistent_empty.run earlier
      have told := consistent.health_after use knows
      rw [changes_append, List.foldl_append]
      refine told.trans ?_
      rw [changes, changes, List.append_nil]
      congr 1
      rcases consistent.known_before knows with known | unmade
      · exact ih known
      · rw [changes_of_unmade unmade, GroupRegistry.health, unmade]
        rfl

/-! ### Names in use -/

/-- Something brought a name into use, and nothing took it out of use since. -/
def InUse (uses : List Use) (name : String) : Prop :=
  ∃ earlier use later, uses = earlier ++ use :: later ∧ use.brought? = some name ∧
    .remove name ∉ later

/-- A name is in use after a use that brings it, and stays so until it is removed. -/
theorem inUse_concat : InUse (uses ++ [use]) name ↔
    use.brought? = some name ∨ use ≠ .remove name ∧ InUse uses name := by
  constructor
  · rintro ⟨earlier, first, later, split, brings, kept⟩
    cases later using List.reverseRecOn with
    | nil =>
        obtain ⟨_, last⟩ := List.append_inj' split rfl
        cases last
        exact .inl brings
    | append_singleton between last =>
        rw [← List.cons_append, ← List.append_assoc] at split
        obtain ⟨before, same⟩ := List.append_inj' split rfl
        cases same
        rw [List.mem_append, not_or, List.mem_singleton] at kept
        exact .inr ⟨Ne.symm kept.2, earlier, first, between, before, brings, kept.1⟩
  · rintro (brings | ⟨keeps, earlier, first, later, rfl, brings, kept⟩)
    · exact ⟨uses, use, [], rfl, brings, List.not_mem_nil⟩
    · refine ⟨earlier, first, later ++ [use], ?_, brings, ?_⟩
      · rw [List.append_assoc, List.cons_append]
      · rw [List.mem_append, not_or, List.mem_singleton]
        exact ⟨kept, Ne.symm keeps⟩

/-- The names of a registry are those that were brought into use and not taken out of use since. -/
theorem find?_run_iff (uses : List Use) (name : String) :
    (∃ ref, (empty.run uses).registry.find? name = some ref) ↔ InUse uses name := by
  induction uses using List.reverseRecOn with
  | nil =>
      constructor
      · rintro ⟨_, found⟩
        exact nomatch found
      · rintro ⟨earlier, _, _, split, _⟩
        exact absurd split.symm (List.append_ne_nil_of_right_ne_nil earlier (List.cons_ne_nil _ _))
  | append_singleton earlier use ih =>
      rw [inUse_concat, ← ih, run_concat]
      change (∃ ref, ((empty.run earlier).after use).find? name = some ref) ↔ _
      rw [find?_after]
      split
      · rename_i brings
        exact ⟨fun _ => .inl brings, fun _ => ⟨_, rfl⟩⟩
      · rename_i idle
        split
        · rename_i removes
          constructor
          · rintro ⟨_, found⟩
            exact nomatch found
          · rintro (brings | ⟨keeps, _⟩)
            · exact absurd brings idle
            · exact absurd removes keeps
        · rename_i keeps
          exact ⟨fun found => .inr ⟨keeps, found⟩, fun either => (either.resolve_left idle).2⟩

/-- A name stays with its object while nothing takes it out of use. -/
theorem find?_run_of_kept (found : sharing.registry.find? name = some ref)
    (kept : .remove name ∉ uses) : (sharing.run uses).registry.find? name = some ref := by
  induction uses generalizing sharing with
  | nil => exact found
  | cons use rest ih =>
      rw [List.mem_cons, not_or] at kept
      refine ih ?_ kept.2
      refine (find?_after sharing use name).trans ?_
      rw [lookUp_of_find? found, if_neg (Ne.symm kept.1), found, ite_self]

/-- What a name was looked up as it is looked up as again, while nothing takes it out of use. -/
theorem obtained?_of_kept {first next : Use} (asks : first ∈ [Use.lookUp name, .find name])
    (obtains : sharing.obtained? first = some ref) (kept : .remove name ∉ uses)
    (asksAgain : next ∈ [Use.lookUp name, .find name, .remove name]) :
    (sharing.run (first :: uses)).obtained? next = some ref := by
  have found : (sharing.step first).registry.find? name = some ref := by
    simp only [List.mem_cons, List.not_mem_nil, or_false] at asks
    rcases asks with rfl | rfl
    · cases obtains
      exact find?_lookUp_self _ name
    · exact obtains
  have now := find?_run_of_kept found kept
  simp only [List.mem_cons, List.not_mem_nil, or_false] at asksAgain
  rcases asksAgain with rfl | rfl | rfl
  · change some (((sharing.step first).run uses).registry.lookUp name).2 = _
    rw [lookUp_of_find? now]
  · exact now
  · exact now

/-- The size counts the names in use, each once. -/
theorem size_run (uses : List Use) : ∃ names : List String,
    names.Nodup ∧ (∀ name, name ∈ names ↔ InUse uses name) ∧
      (empty.run uses).registry.size = names.length := by
  refine ⟨(empty.run uses).registry.names.keys, Dictionary.nodup_keys _, fun name => ?_, ?_⟩
  · rw [← find?_run_iff, Dictionary.mem_keys_iff]
    unfold find?
    simp only [Option.map_eq_some_iff]
    constructor
    · rintro ⟨object, found⟩
      exact ⟨_, object, found, rfl⟩
    · rintro ⟨_, object, found, _⟩
      exact ⟨object, found⟩
  · exact (List.length_map _).symm

/-- A name without an object gets a new one. -/
theorem Consistent.fresh (consistent : sharing.Consistent)
    (absent : sharing.registry.find? name = none) {next : Use}
    (brings : next ∈ [Use.lookUp name, .announce name]) :
    ∃ ref, (sharing.step next).registry.find? name = some ref ∧
      (sharing.step next).registry.health ref = .fresh name ∧
      ∀ held, sharing.Holds held → held.object ≠ ref.object := by
  have looked : (sharing.registry.lookUp name).1.Knows (sharing.registry.lookUp name).2 :=
    knows_lookUp fun named => consistent.named named
  have made := health_lookUp_of_absent absent
  simp only [List.mem_cons, List.not_mem_nil, or_false] at brings
  refine ⟨(sharing.registry.lookUp name).2, ?_, ?_, fun held holds => ?_⟩
  · refine (find?_after _ next name).trans (if_pos ?_)
    rcases brings with rfl | rfl <;> rfl
  · rcases brings with rfl | rfl
    · exact made
    · refine (health_change_eq looked looked _).trans ((if_pos rfl).trans ?_)
      rw [made]
      rfl
  · rw [lookUp_of_absent absent]
    exact consistent.numbered.ne (consistent.knows holds)

/-- An object that lost its name never comes back into use. -/
theorem Consistent.detached_after (consistent : sharing.Consistent)
    (knows : sharing.registry.Knows held)
    (detached : sharing.registry.find? held.name ≠ some held) (use : Use) :
    (sharing.after use).find? held.name ≠ some held := by
  rw [find?_after]
  split
  · cases found : sharing.registry.find? held.name with
    | some ref =>
        rw [lookUp_of_find? found]
        exact fun same => detached (found.trans same)
    | none =>
        rw [lookUp_of_absent found]
        intro same
        exact consistent.numbered.ne knows (congrArg GroupRef.object (Option.some.inj same)).symm
  · split
    · exact nofun
    · exact detached

/-- An object that its name does not stand for any more is not listed again. -/
theorem Consistent.detached_run (consistent : sharing.Consistent)
    (knows : sharing.registry.Knows held)
    (detached : sharing.registry.find? held.name ≠ some held) (uses : List Use) :
    (sharing.run uses).registry.find? held.name ≠ some held := by
  induction uses generalizing sharing with
  | nil => exact detached
  | cons use rest ih =>
      exact ih (consistent.step use) (consistent.knows_after knows use)
        (consistent.detached_after knows detached use)

/-! ### Every run -/

/-- The name that a use is about. -/
def named? (sharing : Sharing) : Use → Option String
  | .lookUp name | .find name | .announce name | .remove name => some name
  | .fail hold | .setAvailable hold _ => (sharing.holds[hold]?).map GroupRef.name

/-- A use of one name does nothing to the objects of another. -/
theorem changesIn_of_ne (different : sharing.named? use ≠ some held.name) :
    sharing.changesIn held use = [] := by
  have obtains : ∀ name, (sharing.registry.lookUp name).2.name = name := fun name =>
    name_of_find? (find?_lookUp_self sharing.registry name)
  have other : ∀ name, some name ≠ some held.name → (sharing.registry.lookUp name).2 ≠ held := by
    rintro name apart rfl
    exact apart (congrArg some (obtains name).symm)
  have through : ∀ hold : Nat, (sharing.holds[hold]?).map GroupRef.name ≠ some held.name →
      sharing.holds[hold]? ≠ some held := fun hold apart own =>
    apart (congrArg (Option.map GroupRef.name) own)
  cases use with
  | lookUp name => exact if_neg fun both => other name different both.2
  | find | remove => rfl
  | announce name =>
      rw [changesIn, makes, if_neg fun both => other name different both.2,
        if_neg (other name different)]
      rfl
  | fail hold | setAvailable hold => exact if_neg (through hold different)

/-- A use that names another group leaves the health of an object alone. -/
theorem Consistent.health_after_of_ne (consistent : sharing.Consistent)
    (knows : sharing.registry.Knows held) (different : sharing.named? use ≠ some held.name) :
    (sharing.after use).health held = sharing.registry.health held := by
  rw [consistent.health_after use (consistent.knows_after knows use), changesIn_of_ne different]
  rfl

/-- A use that names another group leaves alone which object a name stands for. -/
theorem find?_after_of_ne (different : sharing.named? use ≠ some other) :
    (sharing.after use).find? other = sharing.registry.find? other := by
  rw [find?_after, if_neg, if_neg]
  · rintro rfl
    exact different rfl
  · intro brings
    cases use <;> first | exact different brings | exact nomatch brings

/-- What is so after a list of uses of a new registry and of the holds on its objects. -/
structure Shared (uses : List Use) : Prop where
  /-- A hold stays a hold on one object. -/
  kept : ∀ {hold : Nat} {ref}, (empty.run uses).holds[hold]? = some ref →
    ∀ later, (empty.run (uses ++ later)).holds[hold]? = some ref
  /-- A look-up obtains the object that an earlier look-up of the name obtained, if the name was
  not removed in between. -/
  same : ∀ {earlier first later name ref}, uses = earlier ++ first :: later →
    first ∈ [Use.lookUp name, .find name] → (empty.run earlier).obtained? first = some ref →
    .remove name ∉ later → ∀ next ∈ [Use.lookUp name, .find name, .remove name],
      (empty.run uses).obtained? next = some ref
  /-- A failure through one hold shows through every hold on the object, and through no other. -/
  failed : ∀ {hold ref held}, (empty.run uses).holds[hold]? = some ref →
    (empty.run uses).Holds held →
    ((empty.run uses).step (.fail hold)).registry.health held =
      if ref = held then ((empty.run uses).registry.health held).markFailed
      else (empty.run uses).registry.health held
  /-- So does an availability set through one hold. -/
  set : ∀ {hold available ref held}, (empty.run uses).holds[hold]? = some ref →
    (empty.run uses).Holds held →
    ((empty.run uses).step (.setAvailable hold available)).registry.health held =
      if ref = held then ((empty.run uses).registry.health held).setAvailable available
      else (empty.run uses).registry.health held
  /-- So does the announcement of a name, through every hold on the object of the name. -/
  announced : ∀ {name ref held}, (empty.run uses).registry.find? name = some ref →
    (empty.run uses).Holds held →
    ((empty.run uses).step (.announce name)).registry.health held =
      if ref = held then ((empty.run uses).registry.health held).setAvailable true
      else (empty.run uses).registry.health held
  /-- A removed name has no object, and its object keeps its health. -/
  removed : ∀ name held, ((empty.run uses).step (.remove name)).registry.find? name = none ∧
    ((empty.run uses).step (.remove name)).registry.health held =
      (empty.run uses).registry.health held
  /-- An object that lost its name never comes back into use. -/
  detached : ∀ {held}, (empty.run uses).Holds held →
    (empty.run uses).registry.find? held.name ≠ some held →
    ∀ later, (empty.run (uses ++ later)).registry.find? held.name ≠ some held
  /-- A name without an object gets one on which there is no hold yet; it is available and has not
  failed. -/
  fresh : ∀ {name}, (empty.run uses).registry.find? name = none →
    ∀ next ∈ [Use.lookUp name, .announce name], ∃ ref,
      ((empty.run uses).step next).registry.find? name = some ref ∧
      ((empty.run uses).step next).registry.health ref = .fresh name ∧
      ∀ held, (empty.run uses).Holds held → held.object ≠ ref.object
  /-- A use of one name, or of a hold under it, does nothing to other names and their objects. -/
  apart : ∀ {use other}, (empty.run uses).named? use ≠ some other →
    ((empty.run uses).step use).registry.find? other = (empty.run uses).registry.find? other ∧
    ∀ {held}, (empty.run uses).Holds held → held.name = other →
      ((empty.run uses).step use).registry.health held = (empty.run uses).registry.health held
  /-- The size is the number of names brought into use and not removed since. -/
  size : ∃ names : List String, names.Nodup ∧ (∀ name, name ∈ names ↔ InUse uses name) ∧
    (empty.run uses).registry.size = names.length
  /-- The failures of an object are those since it was made or last made available. -/
  failures : ∀ {held}, (empty.run uses).Holds held →
    GroupHealth.failuresIn (changes held empty uses) < UInt32.size →
    ((empty.run uses).registry.health held).failures.toNat =
      GroupHealth.failuresIn (changes held empty uses)
  /-- An available object has not failed. -/
  unfailed : ∀ {held}, (empty.run uses).Holds held →
    (empty.run uses).registry.isAvailable held = true →
    ((empty.run uses).registry.health held).failures = 0
  /-- A failure is logged as the end of availability if the object was available, and no object is
  available after it failed. -/
  logged : ∀ {hold ref}, (empty.run uses).holds[hold]? = some ref →
    (empty.run uses).logged (.fail hold) =
      (if (empty.run uses).registry.isAvailable ref then
        [.notice (.groupMarkedUnavailable ref.name 1)] else []) ∧
    ((empty.run uses).step (.fail hold)).registry.isAvailable ref = false
  /-- Nothing but a failure is logged as the end of availability. -/
  quiet : ∀ {use name count}, .notice (.groupMarkedUnavailable name count) ∈
    (empty.run uses).logged use → ∃ hold, use = .fail hold

/-- The health of a held object is made up of its changes so far, in order. -/
theorem health_eq (uses : List Use) (holds : (empty.run uses).Holds held) :
    (empty.run uses).registry.health held =
      ⟨held.name, GroupHealth.availableAfter (changes held empty uses),
        .ofNat (GroupHealth.failuresIn (changes held empty uses))⟩ := by
  rw [health_run uses ((consistent_empty.run uses).knows holds), GroupHealth.foldl_apply]

/-- An available object has no failures counted against it. -/
theorem failures_of_available (uses : List Use) (holds : (empty.run uses).Holds held)
    (available : (empty.run uses).registry.isAvailable held = true) :
    ((empty.run uses).registry.health held).failures = 0 := by
  unfold isAvailable at available
  rw [health_eq uses holds] at available ⊢
  rw [GroupHealth.failuresIn_of_available available]
  rfl

/-- The first failure of an available object is logged as the end of its availability. -/
theorem logged_fail {hold : Nat} (uses : List Use)
    (own : (empty.run uses).holds[hold]? = some ref) :
    (empty.run uses).logged (.fail hold) =
      if (empty.run uses).registry.isAvailable ref then
        [.notice (.groupMarkedUnavailable ref.name 1)] else [] := by
  have holds : (empty.run uses).Holds ref := .inl (List.mem_of_getElem? own)
  rw [Sharing.logged, own, Option.elim_some, World.failureNotices]
  split
  · rename_i available
    rw [GroupHealth.markFailed, failures_of_available uses holds available, health_eq uses holds]
    rfl
  · rfl

/-- No object is available after it failed. -/
theorem isAvailable_fail {hold : Nat} (own : sharing.holds[hold]? = some ref) :
    (sharing.step (.fail hold)).registry.isAvailable ref = false := by
  have after : (sharing.step (.fail hold)).registry = sharing.registry.markFailed ref := by
    rw [Sharing.step, Sharing.after, through, own, Option.elim_some]
  rw [after, GroupRegistry.markFailed, isAvailable, health_change, if_pos rfl]
  rfl

/-- Only a failure is logged as the end of availability. -/
theorem fail_of_logged {count : UInt32}
    (logs : .notice (.groupMarkedUnavailable name count) ∈ sharing.logged use) :
    ∃ hold, use = .fail hold := by
  cases use with
  | fail hold => exact ⟨hold, rfl⟩
  | announce other =>
      have told : _ ∈ World.announceNotices sharing.registry other := logs
      unfold World.announceNotices at told
      split at told
      · split at told
        · exact absurd told List.not_mem_nil
        · exact nomatch List.mem_singleton.mp told
      · exact absurd told List.not_mem_nil
  | _ => exact absurd logs List.not_mem_nil

/-- However a registry and the holds on its objects are used, all holds under a name share one
object until the name is removed. -/
theorem run_shared (uses : List Use) : Shared uses := by
  have consistent := consistent_empty.run uses
  constructor
  case kept =>
    intro hold ref own later
    rw [run_append]
    exact getElem?_holds_run own later
  case same =>
    rintro earlier first later name ref rfl asks obtains kept next asksAgain
    rw [run_append]
    exact obtained?_of_kept asks obtains kept asksAgain
  case failed =>
    exact fun own holds => consistent.health_touched (consistent.knows holds) (changesIn_fail own)
  case set =>
    exact fun {_ available} _ _ own holds =>
      consistent.health_touched (consistent.knows holds) (changesIn_setAvailable own available)
  case announced =>
    exact fun found holds =>
      consistent.health_touched (consistent.knows holds) (changesIn_announce found)
  case removed =>
    exact fun name held => ⟨(find?_remove _ name name).trans (if_pos rfl), rfl⟩
  case detached =>
    intro held holds lost later
    rw [run_append]
    exact consistent.detached_run (consistent.knows holds) lost later
  case fresh => exact fun absent next brings => consistent.fresh absent brings
  case apart =>
    intro use other different
    refine ⟨find?_after_of_ne different, ?_⟩
    rintro held holds rfl
    exact consistent.health_after_of_ne (consistent.knows holds) different
  case size => exact size_run uses
  case failures =>
    intro held holds few
    rw [health_eq uses holds]
    exact UInt32.toNat_ofNat_of_lt few
  case unfailed => exact failures_of_available uses
  case logged => exact fun own => ⟨logged_fail uses own, isAvailable_fail own⟩
  case quiet => exact fail_of_logged

/-- A group that fails, is removed and is announced again: the old hold reads the failure, the new
one a group that did not fail. -/
example :
    let sharing :=
      empty.run [.lookUp "g", .fail 0, .remove "g", .announce "g", .lookUp "g", .fail 0]
    sharing.holds.map sharing.registry.health =
      [⟨"g", false, 2⟩, ⟨"g", false, 2⟩, ⟨"g", true, 0⟩] := by
  decide

end Sharing

end PullConsumer
