import PullConsumer.Proofs.Client.Pulls

/-! # The gates of a pull cycle over a run

A broker is asked for messages only while all gates of the entry are open, and a cycle that finds a
gate shut ends there. Two gates stay shut for good: that of a teardown that has begun and that of a
lease that has run out (`World.run_gated`).
-/

namespace PullConsumer

/-- The lease of an assignment that has run out stays so. -/
theorem Assignment.isExpired_mono {assignment : Assignment} {now later : Nat} (le : now ≤ later)
    (expired : assignment.isExpired now = true) : assignment.isExpired later = true := by
  simp only [isExpired, Bool.and_eq_true, decide_eq_true_eq] at expired ⊢
  obtain ⟨locked, due⟩ := expired
  exact ⟨locked, Nat.le_trans due le⟩

/-- Whether a gate stays shut once it is. -/
def Gate.isFinal : Gate → Bool
  | .tornDown | .expired => true
  | .placeholder | .unavailable => false

namespace World

variable {world : World} {name : EntryId} {entry : PullEntry}
  {begun : List (TaskId × HandBack)}

/-- What the gates of an entry mean for its pull cycles, from a state on. -/
structure Gated (world : World) (begun : List (TaskId × HandBack)) (name : EntryId)
    (entry : PullEntry) : Prop where
  /-- While a request is made, all gates are open, and the group in use takes the request. -/
  opened : ∀ event request, request ∈ world.pullsIn name event →
    Gate.first? world begun entry = none ∧
      (world.step event).1.registry.find? entry.assignment.brokerGroup = some request.brokerGroup ∧
      (world.step event).1.registry.isAvailable request.brokerGroup = true
  /-- A cycle ends at the first shut gate. -/
  halted : ∀ task draw size timeout hook gate,
    world.tasks.get? task = some (.pull name size timeout hook none) →
    Gate.first? world begun entry = some gate →
    Halts world task entry gate (world.step (.proceed task draw)).1
  /-- After a teardown or the end of the lease, no request is ever made. -/
  final : ∀ gate, gate.isFinal = true → Gate.isShut world begun entry gate = true →
    ∀ later, pulls name world later = []

variable {epoch : Nat} {settings : Settings} {events : List Event}

/-- A gate that is final stays shut along every run. -/
theorem run_shut_final
    (present : ((initial epoch settings).run events).entries.get? name = some entry) {gate : Gate}
    (final : gate.isFinal = true)
    (shut : Gate.isShut ((initial epoch settings).run events)
      (handBacks name (initial epoch settings) events) entry gate = true) (later : List Event) :
    ∃ next, ((initial epoch settings).run (events ++ later)).entries.get? name = some next ∧
      Gate.isShut ((initial epoch settings).run (events ++ later))
        (handBacks name (initial epoch settings) (events ++ later)) next gate = true := by
  obtain ⟨next, there, endures⟩ := run_endures present later
  refine ⟨next, there, ?_⟩
  cases gate with
  | placeholder | unavailable => cases final
  | tornDown =>
      simp only [Gate.isShut, handBacks_append, List.any_append, Bool.or_eq_true] at shut ⊢
      exact .inl shut
  | expired =>
      obtain ⟨same, clock⟩ := ((initial epoch settings).run events).run_time later
      simp only [Gate.isShut, run_append, endures.assignment, same] at shut ⊢
      exact Assignment.isExpired_mono (Nat.add_le_add_left clock _) shut

/-- **Gates.** After every run, a request for an entry is made only with all of its gates open, a
cycle that finds a gate shut ends at the first of them without a call, and no request is made any
more once the teardown of the entry has begun or its lease has run out. All pulls that a run calls
for are requests of its entries. -/
theorem run_gated
    (present : ((initial epoch settings).run events).entries.get? name = some entry) :
    Gated ((initial epoch settings).run events) (handBacks name (initial epoch settings) events)
        name entry ∧
      ∀ task call, Effect.called task call ∈ ((initial epoch settings).run events).history →
        call.isPull = true → ∃ other request, call.request? = some request ∧
          request ∈ pulls other (initial epoch settings) events := by
  refine ⟨⟨fun event request member => ?_, fun task draw size timeout hook gate own shut => ?_,
    fun gate final shut later => ?_⟩, fun task call called asks => ?_⟩
  · obtain ⟨found, task, draw, size, timeout, hook, there, _, _, gates, pulls, rfl⟩ :=
      run_pulled member
    cases present.symm.trans there
    exact ⟨gates, pulls.found, pulls.available⟩
  · have halts := (run_handing present).halts present shut task size timeout hook
    simp only [step, proceed, own]
    exact halts
  · refine List.eq_nil_iff_forall_not_mem.mpr fun request member => ?_
    obtain ⟨earlier, event, rest, _, made⟩ := mem_pulls member
    rw [← run_append] at made
    obtain ⟨found, _, _, _, _, _, there, _, _, gates, _⟩ := run_pulled made
    obtain ⟨next, listed, still⟩ := run_shut_final present final shut earlier
    cases there.symm.trans listed
    exact Bool.false_ne_true ((Gate.first?_eq_none.mp gates gate).symm.trans still)
  · obtain ⟨told, tells, placed⟩ := (proper_initial epoch settings).pulls events
    exact placed task call (tells.called rfl called) asks

/-- A cycle begins when the lease of its entry has just run out. -/
def outOfLease : List Event :=
  [.openEntry { Assignment.ofNames "s" "g" "p" "b" "c" .exclusive with expiry := 5 }
      (.ofNames "s" "g" "c"),
    .begin (.pull 0 10 100 none), .tick 5]

/-- The cycle delivers nothing, and no later one calls the broker. -/
theorem run_gated_outOfLease :
    (((initial 0 .standard).run outOfLease).step (.proceed 1 0)).1.results.get? 1 =
        some (.delivered []) ∧
      ∀ later, pulls 0 ((initial 0 .standard).run outOfLease) later = [] := by
  obtain ⟨entry, present, same⟩ : ∃ entry,
      ((initial 0 .standard).run outOfLease).entries.get? 0 = some entry ∧ entry.assignment =
        { Assignment.ofNames "s" "g" "p" "b" "c" .exclusive with expiry := 5 } := ⟨_, rfl, rfl⟩
  have shut : Gate.isShut ((initial 0 .standard).run outOfLease)
      (handBacks 0 (initial 0 .standard) outOfLease) entry .expired = true := by
    simp only [Gate.isShut, same]
    decide
  have first : Gate.first? ((initial 0 .standard).run outOfLease)
      (handBacks 0 (initial 0 .standard) outOfLease) entry = some .expired := by
    rw [Gate.first?_eq, shut]
    simp only [Gate.isShut, same]
    rfl
  obtain ⟨gated, _⟩ := run_gated present
  exact ⟨(gated.halted 1 0 10 100 none .expired rfl first).result,
    gated.final .expired rfl shut⟩

end World

end PullConsumer
