import Mathlib.Data.Nat.Init
import PullConsumer.Client.Waiting
import PullConsumer.Proofs.Client.Surroundings

/-! # Endless courses

An endless course of events is fair if nobody is kept waiting for good: a task that can go on does
so, a wait whose time has come ends, time passes, and a release is answered (`World.Fair`).
-/

namespace PullConsumer

/-- What lasts until something else comes about, and is seen to if it lasts for good, leads to
that. -/
theorem exists_reached_of_served (Lasts Reached : Nat → Prop) {start : Nat} (begun : Lasts start)
    (goes : ∀ n, start ≤ n → Lasts n → Lasts (n + 1) ∨ Reached (n + 1))
    (served : (∀ n, start ≤ n → Lasts n) → ∃ n, start ≤ n ∧ Reached n) :
    ∃ n, start ≤ n ∧ Reached n := by
  refine Classical.byContradiction fun never => never (served fun n later => ?_)
  induction n, later using Nat.le_induction with
  | base => exact begun
  | succ n later ih =>
      refine (goes n later ih).resolve_right fun reached => never ⟨n + 1, ?_, reached⟩
      exact Nat.le_succ_of_le later

namespace World

/-- The state after so many events of an endless course. -/
def along (world : World) (course : Nat → Event) (count : Nat) : World :=
  world.run ((List.range count).map course)

variable {world : World} {course : Nat → Event}

theorem along_succ (world : World) (course : Nat → Event) (count : Nat) :
    world.along course (count + 1) = ((world.along course count).step (course count)).1 := by
  rw [along, List.range_succ, List.map_append, run, List.foldl_append]
  rfl

/-- The clock only goes forward on a course. -/
theorem along_clock (world : World) (course : Nat → Event) {first last : Nat} (le : first ≤ last) :
    (world.along course first).clock ≤ (world.along course last).clock := by
  induction last, le using Nat.le_induction with
  | base => exact Nat.le_refl _
  | succ last _ ih =>
      rw [along_succ]
      exact Nat.le_trans ih ((world.along course last).step_surroundings (course last)).time.2

/-- A course on which nobody is kept waiting for good. Nothing is said about calls of a flush: they
may stay without an answer. -/
structure Fair (world : World) (course : Nat → Event) : Prop where
  proceeds : ∀ task start, (∀ n, start ≤ n → (world.along course n).canProceed task = true) →
    ∃ n draw, start ≤ n ∧ course n = .proceed task draw
  expires : ∀ task start, (∀ n, start ≤ n → ∃ due,
      (world.along course n).due? task = some due ∧ due ≤ (world.along course n).clock) →
    ∃ n, start ≤ n ∧ course n = .expire task
  elapses : ∀ time, ∃ n, time ≤ (world.along course n).clock
  answers : ∀ task start, (∀ n, start ≤ n →
      (world.along course n).awaited? task = some .release) →
    ∃ n answer, start ≤ n ∧ course n = .answer task answer

/-- A course on which no task is left from some event on, and only time passes, is fair. -/
theorem fair_of_idle {start : Nat} (idle : (world.along course start).tasks = [])
    (ticks : ∀ n, start ≤ n → course n = .tick 1) : world.Fair course := by
  have gone : ∀ n, start ≤ n → (world.along course n).tasks = [] := by
    intro n later
    induction n, later using Nat.le_induction with
    | base => exact idle
    | succ n later ih =>
        rw [along_succ, ticks n later]
        exact ih
  have nobody : ∀ task n, start ≤ n → (world.along course n).tasks.get? task = none := by
    intro task n later
    rw [gone n later]
    rfl
  refine ⟨fun task since ready => ?_, fun task since ready => ?_, fun time => ?_,
    fun task since ready => ?_⟩
  · have stuck := ready (max start since) (Nat.le_max_right ..)
    rw [canProceed, nobody task _ (Nat.le_max_left ..)] at stuck
    cases stuck
  · obtain ⟨due, waits, _⟩ := ready (max start since) (Nat.le_max_right ..)
    rw [due?, nobody task _ (Nat.le_max_left ..)] at waits
    cases waits
  · have passes : ∀ count, count ≤ (world.along course (start + count)).clock := by
      intro count
      induction count with
      | zero => exact Nat.zero_le _
      | succ count ih =>
          rw [← Nat.add_assoc, along_succ, ticks _ (Nat.le_add_right ..)]
          exact Nat.succ_le_succ ih
    exact ⟨start + time, passes time⟩
  · have stuck := ready (max start since) (Nat.le_max_right ..)
    rw [awaited?, nobody task _ (Nat.le_max_left ..)] at stuck
    cases stuck

end World

end PullConsumer
