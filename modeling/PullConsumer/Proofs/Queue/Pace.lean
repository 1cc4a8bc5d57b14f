import PullConsumer.Proofs.Queue.Entries

/-! # The pace of a schedule

How long a schedule waits between two flushes. After a flush without failure it waits for the signal
or the end of the interval. After failures in a row it waits for a delay that the number of failures
bounds, in exact arithmetic (`Backoff.longest_eq`). What the schedule does over time is a list of
beats, and `Beat.Follows` says which beat may come after which.
-/

namespace PullConsumer

/-! ### Delays -/

namespace Backoff

/-- The longest delay after so many failures in a row: the product of the base and the failures, up
to the cap. A base of 0 stands for 200 milliseconds and a cap of 0 for 5000. -/
def bound (backoff : Backoff) (failures : Nat) : Nat :=
  min ((if backoff.base = 0 then 200 else backoff.base.toNat) * failures)
    (if backoff.cap = 0 then 5000 else backoff.cap.toNat)

variable (backoff : Backoff)

/-- The greatest delay fits into 64 bits. -/
theorem limit_le : backoff.limit ≤ 18446744073709551615 := by
  have small : backoff.cap.toNat < 2 ^ 64 := backoff.cap.toNat_lt
  unfold limit
  split <;> omega

/-- Products beyond 64 bits are above the cap anyway. -/
theorem longest_eq (attempt : Nat) : backoff.longest attempt = backoff.bound (attempt + 1) := by
  have fits := backoff.limit_le
  have written : backoff.bound (attempt + 1) =
      min (backoff.step * (attempt + 1)) backoff.limit := rfl
  rw [written]
  simp only [longest, saturatedProduct]
  omega

/-- The bound grows with the failures. -/
theorem bound_mono {fewer more : Nat} (less : fewer ≤ more) :
    backoff.bound fewer ≤ backoff.bound more := by
  have product := Nat.mul_le_mul_left
    (if backoff.base = 0 then 200 else backoff.base.toNat) less
  unfold bound
  omega

/-- Every delay of the jitter range is drawn. -/
theorem exists_delay_eq {attempt delay : Nat} (low : backoff.longest attempt / 2 ≤ delay)
    (high : delay ≤ backoff.longest attempt) : ∃ draw, backoff.delay attempt draw = delay := by
  refine ⟨delay - backoff.longest attempt / 2, ?_⟩
  unfold Backoff.delay
  rw [Nat.mod_eq_of_lt (by omega)]
  omega

/-- The delays of a backoff in exact arithmetic: all numbers between half of the bound and the
bound, which grows with the failures up to the cap. -/
structure Exact (backoff : Backoff) : Prop where
  bounded : ∀ attempt draw, backoff.bound (attempt + 1) / 2 ≤ backoff.delay attempt draw ∧
    backoff.delay attempt draw ≤ backoff.bound (attempt + 1)
  drawn : ∀ attempt delay, backoff.bound (attempt + 1) / 2 ≤ delay →
    delay ≤ backoff.bound (attempt + 1) → ∃ draw, backoff.delay attempt draw = delay
  mono : ∀ fewer more, fewer ≤ more → backoff.bound fewer ≤ backoff.bound more
  capped : ∀ failures,
    backoff.bound failures ≤ if backoff.cap = 0 then 5000 else backoff.cap.toNat

/-- The delays drawn from 64 bits are those of exact arithmetic. -/
theorem exact : backoff.Exact where
  bounded attempt draw := by
    rw [← longest_eq]
    exact backoff.delay_bounds attempt draw
  drawn attempt delay low high := by
    rw [← longest_eq] at low high
    exact backoff.exists_delay_eq low high
  mono _ _ := backoff.bound_mono
  capped _ := Nat.min_le_right ..

end Backoff

/-! ### Ends of flushes -/

/-- Whether a flush failed, or a collaborator broke down during it. -/
def FlushEnd.fails : FlushEnd → Bool
  | .outcome (.failed _) | .panicked _ => true
  | _ => false

namespace AckQueue

variable {queue next : AckQueue} {account : Account}

/-- A failure adds to the failures in a row, and anything else ends them. -/
theorem noteFlush_schedule (queue : AckQueue) (failures : Nat) (ended : FlushEnd) :
    (queue.noteFlush failures ended).1.schedule =
      .entering (if ended.fails then failures + 1 else 0) := by
  cases ended with
  | outcome outcome => cases outcome <;> rfl
  | panicked text => rfl

/-- A schedule that was started is stopped for good. -/
theorem stopSchedule_schedule (queue : AckQueue) : queue.stopSchedule.schedule =
    if queue.schedule = .absent then .absent else .stopped := by
  unfold stopSchedule
  split
  · rename_i absent
    rw [if_pos absent, absent]
  · rename_i started
    rw [if_neg started]

/-- The interval and the backoff of a queue stay as they are. -/
theorem Move.timing (move : Move queue account next) :
    next.interval = queue.interval ∧ next.backoff = queue.backoff := by
  rcases move.rest with changed | ⟨_, _, _, _, _, _, rfl⟩
  · obtain ⟨_, _, _, _, rfl⟩ := changed.rest
    exact ⟨rfl, rfl⟩
  · exact ⟨rfl, rfl⟩

/-- A queue keeps its interval and its backoff over a stride. -/
theorem Stride.timing (stride : Stride queue account next) :
    next.interval = queue.interval ∧ next.backoff = queue.backoff :=
  stride.preserves (motive := fun next => next.interval = queue.interval ∧
      next.backoff = queue.backoff)
    (fun move same => ⟨move.timing.1.trans same.1, move.timing.2.trans same.2⟩)
    (fun _ same => same) ⟨rfl, rfl⟩

end AckQueue

/-! ### Beats -/

/-- What the schedule of a queue does, with the time at which it does so. -/
inductive Beat
  /-- A wait begins that ends at the time `due`. -/
  | waits (now due : Nat)
  /-- A flush is launched, because of the signal if it was `heard`. -/
  | launches (now : Nat) (flush : TaskId) (heard : Bool)
  /-- The end of a flush is noted. -/
  | ends (flush : TaskId) (ended : FlushEnd)
deriving DecidableEq

namespace Beat

/-- The failures in a row after some beat. -/
def countOn (failures : Nat) : Beat → Nat
  | .ends _ ended => if ended.fails then failures + 1 else 0
  | _ => failures

/-- How many flushes in a row failed at the end of a list of beats. -/
def failures (beats : List Beat) : Nat :=
  beats.foldl countOn 0

/-- Whether a beat may follow on others, under the settings of the making of the queue. -/
inductive Follows (made : Settings) : List Beat → Beat → Prop
  /-- After a flush without failure, and at the start, the wait takes the interval. -/
  | rests {earlier : List Beat} (now : Nat)
      (ready : earlier = [] ∨ ∃ before flush ended, earlier = before ++ [.ends flush ended])
      (calm : failures earlier = 0) :
      Follows made earlier (.waits now (now + max made.ackFlushInterval.toNat 1))
  /-- After failures in a row the wait takes a delay between half of the bound and the bound. -/
  | backsOff {before : List Beat} {flush : TaskId} {ended : FlushEnd} (now delay : Nat)
      (failed : failures (before ++ [.ends flush ended]) ≠ 0)
      (low : (Backoff.mk made.retryBaseBackoff made.retryMaxBackoff).bound
        (failures (before ++ [.ends flush ended])) / 2 ≤ delay)
      (high : delay ≤ (Backoff.mk made.retryBaseBackoff made.retryMaxBackoff).bound
        (failures (before ++ [.ends flush ended]))) :
      Follows made (before ++ [.ends flush ended]) (.waits now (now + delay))
  /-- The signal ends a wait, but not one after a failure. -/
  | hears {before : List Beat} {began due : Nat} (now : Nat) (flush : TaskId)
      (calm : failures before = 0) :
      Follows made (before ++ [.waits began due]) (.launches now flush true)
  /-- The wait has lasted until it was due. -/
  | elapses {before : List Beat} {began due : Nat} (now : Nat) (flush : TaskId)
      (late : due ≤ now) :
      Follows made (before ++ [.waits began due]) (.launches now flush false)
  | notes {before : List Beat} {now : Nat} {flush : TaskId} {heard : Bool} (ended : FlushEnd) :
      Follows made (before ++ [.launches now flush heard]) (.ends flush ended)

@[simp] theorem failures_concat (beats : List Beat) (beat : Beat) :
    failures (beats ++ [beat]) = countOn (failures beats) beat :=
  List.foldl_append

/-- Each beat may follow on those before it. -/
def InTime (made : Settings) (beats : List Beat) : Prop :=
  ∀ earlier beat, earlier ++ [beat] <+: beats → Follows made earlier beat

theorem inTime_nil (made : Settings) : InTime made [] := by
  intro earlier beat before
  exact absurd (List.prefix_nil.mp before)
    (List.append_ne_nil_of_right_ne_nil _ (List.cons_ne_nil _ _))

/-- A beat that may follow keeps the beats in time. -/
theorem InTime.concat {made : Settings} {beats : List Beat} {beat : Beat}
    (inTime : InTime made beats) (follows : Follows made beats beat) :
    InTime made (beats ++ [beat]) := by
  intro earlier other before
  rcases List.prefix_concat_iff.mp before with same | shorter
  · obtain ⟨rfl, last⟩ := List.append_inj' same rfl
    cases last
    exact follows
  · exact inTime earlier other shorter

/-! ### The schedule after its beats -/

/-- Where a schedule stands that has gone through some beats. -/
def Leads (beats : List Beat) : Schedule → Prop
  | .absent => beats = []
  | .entering count => count = failures beats ∧
      (beats = [] ∨ ∃ before flush ended, beats = before ++ [.ends flush ended])
  | .idle due => ∃ before began, beats = before ++ [.waits began due] ∧ failures before = 0
  | .backingOff count due => ∃ before began, beats = before ++ [.waits began due] ∧
      count = failures before
  | .flushing count flush => ∃ before now heard, beats = before ++ [.launches now flush heard] ∧
      count = failures before
  | .stopped => True

end Beat

end PullConsumer
