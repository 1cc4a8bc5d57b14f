import PullConsumer.Settings.Live

/-! # Timeouts follow the settings

Settings lay a pull timeout down for every subject (`Settings.LaysDown`). A timeout that was handed
out stays handed out, and it is that of the settings applied last (`LiveSettings.Coherent`), however
often and in which order settings are applied and timeouts are handed out.
-/

namespace PullConsumer

/-- A changed row is found under its old key. -/
theorem Dictionary.find?_map {α β : Type} (change : String → α → β) (key : String)
    (pairs : List (String × α)) :
    find? key (pairs.map fun pair => (pair.1, change pair.1 pair.2)) =
      (find? key pairs).map (change key) := by
  induction pairs with
  | nil => rfl
  | cons pair rest ih =>
      simp only [List.map_cons, find?]
      split
      · rename_i same
        rw [same, Option.map_some]
      · exact ih

/-- A dictionary with changed values has the changed value of every key. -/
theorem Dictionary.get?_mapValues {α β : Type} (dictionary : Dictionary α)
    (change : String → α → β) (key : String) :
    (dictionary.mapValues change).get? key = (dictionary.get? key).map (change key) :=
  find?_map change key dictionary.entries

/-- The pull timeout that settings lay down for a subject: its own if it has one, or else the common
one. -/
inductive Settings.LaysDown (settings : Settings) (subject : String) : Nat → Prop
  | own {timeout : UInt64} (listed : settings.subjects.get? subject = some ⟨some timeout⟩) :
      LaysDown settings subject timeout.toNat
  | common (unlisted : ∀ timeout, settings.subjects.get? subject ≠ some ⟨some timeout⟩) :
      LaysDown settings subject settings.pullRequestTimeout.toNat

/-- A subject has the timeout that the settings lay down for it. -/
theorem Settings.laysDown_timeoutOf (settings : Settings) (subject : String) :
    settings.LaysDown subject (settings.timeoutOf subject) := by
  unfold timeoutOf
  cases found : settings.subjects.get? subject with
  | none =>
      refine .common fun timeout listed => ?_
      cases found.symm.trans listed
  | some entry =>
      obtain ⟨own⟩ := entry
      cases own with
      | none =>
          refine .common fun timeout listed => ?_
          cases found.symm.trans listed
      | some timeout => exact .own found

namespace LiveSettings

/-- Every timeout handed out is that of the current settings. -/
def Coherent (live : LiveSettings) : Prop :=
  ∀ subject cell, live.timeout? subject = some cell → cell.value = live.current.timeoutOf subject

variable {live : LiveSettings} {subject other : String} {cell : Versioned Nat}

/-- At first no timeout is handed out that could be outdated. -/
theorem coherent_ofSettings (settings : Settings) : (ofSettings settings).Coherent :=
  fun _ cell handed => absurd handed.symm (Option.some_ne_none cell)

/-! ### Handing a timeout out -/

theorem current_handOut (live : LiveSettings) (subject : String) :
    (live.handOut subject).current = live.current := by
  unfold handOut
  split <;> rfl

/-- A subject is handed the timeout that it has, or else the current one, and no other subject is
concerned. -/
theorem timeout?_handOut (live : LiveSettings) (subject other : String) :
    (live.handOut subject).timeout? other =
      if subject = other then
        some ((live.timeout? subject).getD (.initial (live.current.timeoutOf subject)))
      else live.timeout? other := by
  unfold handOut
  split
  · rename_i cell handed
    split
    · rename_i same
      rw [← same, timeout?, handed, Option.getD_some]
    · rfl
  · rename_i absent
    simp only [timeout?, Dictionary.get?_insert, absent, Option.getD_none]

/-- A subject keeps its timeout while timeouts are handed out. -/
theorem handOut_keeps (handed : live.timeout? subject = some cell) (other : String) :
    (live.handOut other).timeout? subject = some cell := by
  rw [timeout?_handOut]
  split
  · rename_i same
    rw [same, handed, Option.getD_some]
  · exact handed

/-- A timeout that is handed out is that of the current settings. -/
theorem Coherent.handOut (coherent : live.Coherent) (subject : String) :
    (live.handOut subject).Coherent := by
  intro other cell handed
  rw [current_handOut]
  rw [timeout?_handOut] at handed
  split at handed
  · rename_i same
    cases handed
    rw [← same]
    cases earlier : live.timeout? subject with
    | none => rfl
    | some cell => exact coherent subject cell earlier
  · exact coherent other cell handed

/-! ### Applying settings -/

/-- A refreshed timeout is that of the new settings. -/
theorem value_refreshed (settings : Settings) (subject : String) (cell : Versioned Nat) :
    (refreshed settings subject cell).value = settings.timeoutOf subject := by
  unfold refreshed
  split
  · assumption
  · rfl

/-- Applied settings refresh the timeouts that were handed out, and hand none out. -/
theorem timeout?_apply (live : LiveSettings) (settings : Settings) (subject : String) :
    (live.apply settings).timeout? subject =
      (live.timeout? subject).map (refreshed settings subject) :=
  Dictionary.get?_mapValues live.timeouts (refreshed settings) subject

/-- New settings reach every timeout handed out, whatever it was before. -/
theorem coherent_apply (live : LiveSettings) (settings : Settings) :
    (live.apply settings).Coherent := by
  intro subject cell handed
  rw [timeout?_apply] at handed
  obtain ⟨earlier, _, rfl⟩ := Option.map_eq_some_iff.mp handed
  exact value_refreshed settings subject earlier

end LiveSettings

end PullConsumer
