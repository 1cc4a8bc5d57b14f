import PullConsumer.Proofs.Settings.Live
import PullConsumer.Settings.Source

/-! # Timeouts over reloads

Timeouts are handed out, settings are applied and read anew, and holders may write over the timeouts
they hold, in any order. The timeout of a subject is one cell for all its holders. It reads what the
settings applied last say, and its version counts the applied settings that changed it
(`LiveSettings.run_reloaded`).
-/

namespace PullConsumer

/-- A value that may have been written over since an earlier state of it was remembered. The version
tells whether it was. -/
structure Versioned.Outdates {α : Type} (old new : Versioned α) : Prop where
  version : old.version ≤ new.version
  same : new.version = old.version → new = old

namespace Versioned.Outdates

variable {α : Type} {old middle new : Versioned α}

theorem refl (old : Versioned α) : old.Outdates old :=
  ⟨Nat.le_refl _, fun _ => rfl⟩

theorem trans (first : old.Outdates middle) (second : middle.Outdates new) : old.Outdates new where
  version := Nat.le_trans first.version second.version
  same unwritten := by
    have early : middle.version = old.version :=
      Nat.le_antisymm (unwritten ▸ second.version) first.version
    exact (second.same (unwritten.trans early.symm)).trans (first.same early)

/-- A write outdates the value it replaces. -/
theorem write (old : Versioned α) (value : α) : old.Outdates (old.write value) where
  version := Nat.le_succ _
  same unwritten := absurd unwritten (Nat.succ_ne_self _)

end Versioned.Outdates

namespace LiveSettings

/-- What can happen to live settings. -/
inductive Use
  | handOut (subject : String)
  | apply (settings : Settings)
  /-- Settings are read anew, and applied if they can be read. -/
  | reload (source : Settings.Source)
  /-- A holder writes over the timeout of a subject. -/
  | write (subject : String) (timeout : Nat)

/-- The settings that a use makes the current ones. -/
def Use.applied? : Use → Option Settings
  | .apply settings => some settings
  | .reload source => (Settings.load source).toOption
  | .handOut _ | .write .. => none

/-- The settings applied over a list of uses, in order. -/
def applied (uses : List Use) : List Settings :=
  uses.filterMap Use.applied?

/-- How many of the settings applied one after the other change the timeout of a subject. -/
def changesOf (subject : String) : Settings → List Settings → Nat
  | _, [] => 0
  | current, next :: rest =>
    (if current.timeoutOf subject = next.timeoutOf subject then 0 else 1) +
      changesOf subject next rest

def step (live : LiveSettings) : Use → LiveSettings
  | .handOut subject => live.handOut subject
  | .apply settings => live.apply settings
  | .reload source => live.reload (Settings.load source)
  | .write subject timeout => live.write subject timeout

/-- The state after a list of uses. -/
def run (live : LiveSettings) (uses : List Use) : LiveSettings :=
  uses.foldl step live

variable {live : LiveSettings} {subject : String} {cell : Versioned Nat} {use : Use}
  {uses : List Use} {settings next : Settings}

theorem run_append (live : LiveSettings) (first second : List Use) :
    live.run (first ++ second) = (live.run first).run second :=
  List.foldl_append

/-! ### One use -/

/-- A use that applies settings writes them to every subject handed out. -/
theorem step_of_applied (applies : use.applied? = some next) : live.step use = live.apply next := by
  cases use with
  | handOut | write => cases applies
  | apply => exact congrArg live.apply (Option.some.inj applies)
  | reload source =>
      have read : (Settings.load source).toOption = some next := applies
      simp only [step]
      cases loaded : Settings.load source with
      | error fault =>
          rw [loaded] at read
          cases read
      | ok found =>
          rw [loaded] at read
          cases read
          rfl

/-- Settings that cannot be read leave all as it was. -/
theorem step_reload_of_error {source : Settings.Source} {fault : Fault}
    (unread : Settings.load source = .error fault) : live.step (.reload source) = live := by
  simp only [step, unread, reload]

/-- A reload that fails leaves the settings as they are. -/
theorem step_reload_of_unapplied {source : Settings.Source}
    (unapplied : (Use.reload source).applied? = none) : live.step (.reload source) = live := by
  have unread : (Settings.load source).toOption = none := unapplied
  cases loaded : Settings.load source with
  | error fault => exact step_reload_of_error loaded
  | ok found =>
      rw [loaded] at unread
      cases unread

/-- A write to one subject reaches the timeout handed out for it, and no other. -/
theorem timeout?_write (live : LiveSettings) (subject other : String) (timeout : Nat) :
    (live.write subject timeout).timeout? other =
      if subject = other then (live.timeout? other).map (·.write timeout)
      else live.timeout? other := by
  unfold write
  split
  · rename_i cell handed
    rw [timeout?, Dictionary.get?_insert]
    split
    · rename_i same
      rw [← same, timeout?, handed, Option.map_some]
    · rfl
  · rename_i absent
    split
    · rename_i same
      rw [← same, timeout?, absent, Option.map_none]
    · rfl

theorem current_write (live : LiveSettings) (subject : String) (timeout : Nat) :
    (live.write subject timeout).current = live.current := by
  unfold write
  split <;> rfl

/-- The current settings are those of the use, if it applies any. -/
theorem current_step (live : LiveSettings) (use : Use) :
    (live.step use).current = use.applied?.getD live.current := by
  cases applies : use.applied? with
  | some next =>
      rw [step_of_applied applies]
      rfl
  | none =>
      cases use with
      | handOut subject => exact current_handOut live subject
      | apply => cases applies
      | reload => rw [step_reload_of_unapplied applies, Option.getD_none]
      | write subject timeout => exact current_write live subject timeout

/-- What a use makes of the timeout of a subject: settings bring it up to date, a holder writes over
it, and nothing else touches it. -/
theorem timeout?_step (handed : live.timeout? subject = some cell) (use : Use) :
    (∃ next, use.applied? = some next ∧
      (live.step use).timeout? subject = some (refreshed next subject cell)) ∨
    (∃ timeout, use = .write subject timeout ∧
      (live.step use).timeout? subject = some (cell.write timeout)) ∨
    use.applied? = none ∧ (live.step use).timeout? subject = some cell := by
  cases applies : use.applied? with
  | some next =>
      refine .inl ⟨next, rfl, ?_⟩
      rw [step_of_applied applies, timeout?_apply, handed, Option.map_some]
  | none =>
      cases use with
      | handOut other => exact .inr (.inr ⟨rfl, handOut_keeps handed other⟩)
      | apply => cases applies
      | reload =>
          rw [step_reload_of_unapplied applies]
          exact .inr (.inr ⟨rfl, handed⟩)
      | write other timeout =>
          have written := timeout?_write live other subject timeout
          rw [handed] at written
          by_cases same : other = subject
          · rw [if_pos same] at written
            exact .inr (.inl ⟨timeout, by rw [same], written⟩)
          · rw [if_neg same] at written
            exact .inr (.inr ⟨rfl, written⟩)

/-- A timeout that was not handed out is handed out by name only. -/
theorem timeout?_step_of_absent (absent : live.timeout? subject = none)
    (other : use ≠ .handOut subject) : (live.step use).timeout? subject = none := by
  cases applies : use.applied? with
  | some next => rw [step_of_applied applies, timeout?_apply, absent, Option.map_none]
  | none =>
      cases use with
      | handOut name =>
          have different : name ≠ subject := fun same => other (by rw [same])
          have handing := timeout?_handOut live name subject
          rw [if_neg different, absent] at handing
          exact handing
      | apply => cases applies
      | reload =>
          rw [step_reload_of_unapplied applies]
          exact absent
      | write name timeout =>
          have written := timeout?_write live name subject timeout
          rw [absent, Option.map_none, ite_self] at written
          exact written

/-! ### Any number of uses -/

/-- The current settings are those that were applied last. -/
theorem current_run (live : LiveSettings) (uses : List Use) :
    (live.run uses).current = (applied uses).getLastD live.current := by
  induction uses generalizing live with
  | nil => rfl
  | cons use rest ih =>
      have later : (live.run (use :: rest)).current =
          (applied rest).getLastD (live.step use).current := ih (live.step use)
      rw [later, current_step]
      simp only [applied, List.filterMap_cons]
      cases use.applied? with
      | none => rfl
      | some next => rw [List.getLastD_cons, Option.getD_some]

/-- What is remembered of a timeout is outdated if and only if its version is. -/
theorem outdates_run (handed : live.timeout? subject = some cell) (uses : List Use) :
    ∃ new, (live.run uses).timeout? subject = some new ∧ cell.Outdates new := by
  induction uses generalizing live cell with
  | nil => exact ⟨cell, handed, .refl cell⟩
  | cons use rest ih =>
      obtain ⟨middle, reads, first⟩ : ∃ middle,
          (live.step use).timeout? subject = some middle ∧ cell.Outdates middle := by
        rcases timeout?_step handed use with ⟨next, _, reads⟩ | ⟨timeout, _, reads⟩ | ⟨_, reads⟩
        · refine ⟨_, reads, ?_⟩
          unfold refreshed
          split
          · exact .refl cell
          · exact .write cell _
        · exact ⟨_, reads, .write cell timeout⟩
        · exact ⟨cell, reads, .refl cell⟩
      obtain ⟨new, later, second⟩ := ih reads
      exact ⟨new, later, first.trans second⟩

/-- No timeout is handed out for a subject that nobody asked about. -/
theorem timeout?_run_of_absent (absent : live.timeout? subject = none)
    (unhanded : Use.handOut subject ∉ uses) : (live.run uses).timeout? subject = none := by
  induction uses generalizing live with
  | nil => exact absent
  | cons use rest ih =>
      have other : use ≠ .handOut subject := fun same => unhanded (same ▸ List.mem_cons_self)
      exact ih (timeout?_step_of_absent absent other)
        fun member => unhanded (List.mem_cons_of_mem _ member)

/-- A timeout handed out stays handed out. -/
theorem timeout?_run_ne_none (member : Use.handOut subject ∈ uses) :
    (live.run uses).timeout? subject ≠ none := by
  obtain ⟨earlier, later, rfl⟩ := List.append_of_mem member
  obtain ⟨cell, handed⟩ : ∃ cell,
      ((live.run earlier).step (.handOut subject)).timeout? subject = some cell :=
    ⟨_, (timeout?_handOut _ subject subject).trans (if_pos rfl)⟩
  obtain ⟨new, reads, _⟩ := outdates_run handed later
  rw [run_append]
  exact Option.ne_none_iff_exists'.mpr ⟨new, reads⟩

/-- A timeout that is up to date stays so while no holder writes over it, and its version counts the
changes. -/
theorem timeout?_run {version : Nat} (unwritten : ∀ timeout, Use.write subject timeout ∉ uses)
    (handed : live.timeout? subject = some ⟨version, live.current.timeoutOf subject⟩) :
    (live.run uses).timeout? subject =
      some ⟨version + changesOf subject live.current (applied uses),
        (live.run uses).current.timeoutOf subject⟩ := by
  induction uses generalizing live version with
  | nil => exact handed
  | cons use rest ih =>
      have later : ∀ timeout, Use.write subject timeout ∉ rest :=
        fun timeout member => unwritten timeout (List.mem_cons_of_mem _ member)
      have current := current_step live use
      rcases timeout?_step handed use with ⟨next, applies, reads⟩ | ⟨timeout, rfl, _⟩ |
        ⟨unapplied, reads⟩
      · have told : applied (use :: rest) = next :: applied rest := by
          simp only [applied, List.filterMap_cons, applies]
        rw [applies, Option.getD_some] at current
        rw [told, changesOf, ← Nat.add_assoc, ← current]
        refine ih later (reads.trans ?_)
        rw [current]
        by_cases same : live.current.timeoutOf subject = next.timeoutOf subject
        · rw [refreshed, if_pos same, if_pos same, same, Nat.add_zero]
        · rw [refreshed, if_neg same, if_neg same]
          rfl
      · exact absurd List.mem_cons_self (unwritten timeout)
      · have told : applied (use :: rest) = applied rest := by
          simp only [applied, List.filterMap_cons, unapplied]
        rw [unapplied, Option.getD_none] at current
        rw [told, ← current]
        exact ih later (current ▸ reads)

theorem timeout?_ofSettings (settings : Settings) (subject : String) :
    (ofSettings settings).timeout? subject = none := rfl

/-- From its first handing out on, a timeout follows the settings. -/
theorem timeout?_run_handOut (settings : Settings) {earlier later : List Use}
    (first : Use.handOut subject ∉ earlier)
    (unwritten : ∀ timeout, Use.write subject timeout ∉ later) :
    ((ofSettings settings).run (earlier ++ .handOut subject :: later)).timeout? subject =
      some ⟨changesOf subject ((applied earlier).getLastD settings) (applied later),
        ((ofSettings settings).run (earlier ++ .handOut subject :: later)).current.timeoutOf
          subject⟩ := by
  have absent := timeout?_run_of_absent (timeout?_ofSettings settings subject) first
  have kept : (((ofSettings settings).run earlier).step (.handOut subject)).current =
      (applied earlier).getLastD settings :=
    (current_handOut _ subject).trans (current_run _ earlier)
  have fresh : (((ofSettings settings).run earlier).step (.handOut subject)).timeout? subject =
      some ⟨0, (((ofSettings settings).run earlier).step (.handOut subject)).current.timeoutOf
        subject⟩ := by
    simp only [step, timeout?_handOut, if_true, absent, Option.getD_none, current_handOut]
    rfl
  have follows := timeout?_run unwritten fresh
  rw [kept, Nat.zero_add] at follows
  rw [run_append]
  exact follows

/-- What holds of live settings after any uses of them. -/
structure Reloaded (settings : Settings) (uses : List Use) : Prop where
  /-- The current settings are those applied last. -/
  current : ((ofSettings settings).run uses).current = (applied uses).getLastD settings
  /-- All holders of the timeout of a subject read one cell, from when it is first handed out. -/
  handedOut : ∀ subject,
    ((ofSettings settings).run uses).timeout? subject ≠ none ↔ Use.handOut subject ∈ uses
  /-- The cell reads what the current settings say, and its version is the number of settings
  applied since it was first handed out that changed the timeout. -/
  reads : ∀ earlier subject later, uses = earlier ++ .handOut subject :: later →
    Use.handOut subject ∉ earlier → (∀ timeout, Use.write subject timeout ∉ later) →
    ((ofSettings settings).run uses).timeout? subject =
      some ⟨changesOf subject ((applied earlier).getLastD settings) (applied later),
        ((applied uses).getLastD settings).timeoutOf subject⟩
  /-- What settings say of a subject is its own timeout, or else the common one. -/
  said : ∀ (next : Settings) subject, next.LaysDown subject (next.timeoutOf subject)
  /-- Settings that say the same of a subject leave its cell alone. -/
  unchanged : ∀ use next subject cell, use.applied? = some next →
    ((ofSettings settings).run uses).timeout? subject = some cell →
    (∀ timeout, Use.write subject timeout ∉ uses) →
    next.timeoutOf subject = ((ofSettings settings).run uses).current.timeoutOf subject →
    ((ofSettings settings).run (uses ++ [use])).timeout? subject = some cell
  /-- What was remembered of a cell is what it still reads, unless its version has grown. -/
  remembered : ∀ subject cell later,
    ((ofSettings settings).run uses).timeout? subject = some cell →
    ∃ new, ((ofSettings settings).run (uses ++ later)).timeout? subject = some new ∧
      cell.Outdates new
  /-- Settings that cannot be read leave all as it was. -/
  failed : ∀ source fault, Settings.load source = .error fault →
    (ofSettings settings).run (uses ++ [.reload source]) = (ofSettings settings).run uses
  /-- Whatever holders have written, the next settings reach every cell. -/
  overwritten : ∀ use next subject cell, use.applied? = some next →
    ((ofSettings settings).run (uses ++ [use])).timeout? subject = some cell →
    cell.value = next.timeoutOf subject

/-- **Reloads.** However timeouts are handed out and settings are applied and read anew, every
timeout reads what the settings applied last say, with a version that counts its changes; settings
that cannot be read change nothing, and what holders write lasts until settings are applied. -/
theorem run_reloaded (settings : Settings) (uses : List Use) : Reloaded settings uses where
  current := current_run _ uses
  handedOut subject := by
    refine ⟨fun handed => ?_, timeout?_run_ne_none⟩
    by_cases member : Use.handOut subject ∈ uses
    · exact member
    · exact absurd (timeout?_run_of_absent (timeout?_ofSettings settings subject) member) handed
  reads earlier subject later split first unwritten := by
    have follows := timeout?_run_handOut settings first unwritten
    rw [← split, current_run] at follows
    exact follows
  said := Settings.laysDown_timeoutOf
  unchanged use next subject cell applies handed unwritten alike := by
    by_cases member : Use.handOut subject ∈ uses
    · obtain ⟨earlier, later, rfl, first⟩ := List.eq_append_cons_of_mem member
      have follows := timeout?_run_handOut settings first fun timeout later =>
        unwritten timeout (List.mem_append_right _ (List.mem_cons_of_mem _ later))
      have value := congrArg Versioned.value (Option.some.inj (handed.symm.trans follows))
      have same : cell.value = next.timeoutOf subject := value.trans alike.symm
      rw [run_append]
      change (((ofSettings settings).run (earlier ++ .handOut subject :: later)).step use).timeout?
        subject = some cell
      rw [step_of_applied applies, timeout?_apply, handed, Option.map_some, refreshed, if_pos same]
    · have absent := timeout?_run_of_absent (timeout?_ofSettings settings subject) member
      exact absurd (handed.symm.trans absent) (Option.some_ne_none cell)
  remembered subject cell later handed := by
    rw [run_append]
    exact outdates_run handed later
  failed source fault unread := by
    rw [run_append]
    exact step_reload_of_error unread
  overwritten use next subject cell applies handed := by
    rw [run_append] at handed
    have brought : ((ofSettings settings).run uses).step use =
        ((ofSettings settings).run uses).apply next := step_of_applied applies
    have reads := coherent_apply ((ofSettings settings).run uses) next
    rw [← brought] at reads
    exact (reads subject cell handed).trans (by rw [brought]; rfl)

/-- The common timeout is shortened, said again and put back, and a file is missing in between. -/
def retuned : List Use :=
  let short := { Settings.standard with pullRequestTimeout := 250 }
  [.handOut "s", .apply short, .reload .missing, .handOut "t", .apply short, .apply .standard]

/-- The timeout handed out early has changed twice, and the one handed out later once. -/
theorem run_reloaded_retuned :
    ((ofSettings .standard).run retuned).timeout? "s" = some ⟨2, 8000⟩ ∧
      ((ofSettings .standard).run retuned).timeout? "t" = some ⟨1, 8000⟩ := by
  have reads := (run_reloaded .standard retuned).reads
  have unwritten : ∀ timeout subject, Use.write subject timeout ∉ retuned := by
    intro timeout subject
    simp [retuned]
  constructor
  · exact reads [] "s" (retuned.drop 1) rfl List.not_mem_nil
      fun timeout member => unwritten timeout "s" (List.mem_of_mem_drop member)
  · exact reads (retuned.take 3) "t" (retuned.drop 4) rfl (by simp [retuned])
      fun timeout member => unwritten timeout "t" (List.mem_of_mem_drop member)

end LiveSettings

end PullConsumer
