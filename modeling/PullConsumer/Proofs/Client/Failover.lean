import Mathlib.Data.List.Induction
import PullConsumer.Proofs.Client.Pulls

/-! # Failover

A failed or late pull takes its broker group out of use, and so does a rejection (`World.Trips`).
From then on no broker is asked for messages of that group until the group is announced again or set
available by hand (`World.run_failedOver`).
-/

namespace PullConsumer

/-- Whether an event brings a broker group back into use. -/
def Event.restores (group : GroupRef) : Event → Bool
  | .groupAvailable name => name = group.name
  | .setGroup ref available => available && ref.object = group.object
  | _ => false

/-- Whether an event takes the name of a broker group out of the registry. -/
def Event.removes (name : String) : Event → Bool
  | .removeGroup other => other = name
  | _ => false

namespace World

variable {world before after : World} {group : GroupRef} {event : Event}
  {epoch : Nat} {settings : Settings} {events : List Event}

/-! ### Broker groups over events -/

namespace SurroundingsStep

variable {shared next : Surroundings}

/-- A step of the surroundings keeps the registry sound. -/
theorem sound (step : SurroundingsStep shared event next) (sound : shared.registry.Sound) :
    next.registry.Sound := by
  cases step with
  | ignores | elapses | applies | handsOut => exact sound
  | looksUp event name => exact sound.lookUp name
  | fails event ref => exact sound.change ref GroupHealth.markFailed
  | rejects event ref => exact sound.change ref fun health => health.setAvailable false
  | sets ref available => exact sound.change ref fun health => health.setAvailable available
  | announces name => exact sound.markAvailable name
  | removes name => exact sound.remove name

/-- A name in use stays with its object until it is removed. -/
theorem find? (step : SurroundingsStep shared event next)
    (listed : shared.registry.find? group.name = some group)
    (kept : event.removes group.name = false) : next.registry.find? group.name = some group := by
  cases step with
  | ignores | elapses | applies | handsOut | fails | rejects | sets => exact listed
  | looksUp event name => exact GroupRegistry.find?_lookUp listed name
  | announces name => exact GroupRegistry.find?_lookUp listed name
  | removes name =>
      have different : name ≠ group.name := of_decide_eq_false kept
      rw [GroupRegistry.find?_remove, if_neg different]
      exact listed

/-- A group stays out of use until an event brings it back. -/
theorem outOfUse (step : SurroundingsStep shared event next) (sound : shared.registry.Sound)
    (out : shared.registry.OutOfUse group) (unrestored : event.restores group = false)
    (kept : event.removes group.name = false) : next.registry.OutOfUse group := by
  cases step with
  | ignores | elapses | applies | handsOut => exact out
  | looksUp event name => exact out.lookUp sound name
  | fails event ref => exact out.markFailed ref
  | rejects event ref =>
      have never : false = true → ref.object ≠ group.object := by rintro ⟨⟩
      exact out.setAvailable never
  | sets ref available =>
      refine out.setAvailable fun now same => ?_
      subst now
      exact absurd same (of_decide_eq_false unrestored)
  | announces name => exact out.markAvailable sound (of_decide_eq_false unrestored)
  | removes name => exact out.remove (of_decide_eq_false kept)

end SurroundingsStep

/-- A run keeps the registry sound. -/
theorem run_sound (sound : world.registry.Sound) (events : List Event) :
    (world.run events).registry.Sound := by
  induction events generalizing world with
  | nil => exact sound
  | cons event rest ih => exact ih ((world.step_surroundings event).sound sound)

/-- A group stays out of use over a run in which nothing restores or removes it. -/
theorem run_outOfUse (sound : world.registry.Sound) (out : world.registry.OutOfUse group)
    {events : List Event} (spared : ∀ event ∈ events,
      event.restores group = false ∧ event.removes group.name = false) :
    (world.run events).registry.OutOfUse group := by
  induction events generalizing world with
  | nil => exact out
  | cons event rest ih =>
      obtain ⟨unrestored, kept⟩ := spared event List.mem_cons_self
      have step := world.step_surroundings event
      exact ih (step.sound sound) (step.outOfUse sound out unrestored kept)
        fun next member => spared next (List.mem_cons_of_mem event member)

/-! ### Pulls that wait for an answer -/

section Waiting

variable {task : TaskId} {name : EntryId} {request : PullRequest} {deadline : Nat}

/-- A pull cycle of an entry waits for the answer to a request. -/
def Awaits (world : World) (task : TaskId) (name : EntryId) (request : PullRequest)
    (deadline : Nat) : Prop :=
  ∃ size timeout hook,
    world.tasks.get? task = some (.pull name size timeout hook (some (request, deadline)))

/-- A pull cycle that takes a step begins, or ends, or stays where it is. -/
theorem step_of_pull {size timeout : Nat} {hook : Option HookId}
    {calling : Option (PullRequest × Nat)}
    (own : world.tasks.get? task = some (.pull name size timeout hook calling))
    (acts : event.actor? = some task) :
    (∃ draw, event = .proceed task draw ∧ calling = none) ∨ (world.step event).1 = world ∨
      (world.step event).1.tasks.get? task = none := by
  have ended : ∀ (middle : World) result, (middle.finish task result).tasks.get? task = none :=
    fun middle result => (get?_finish middle task result).1
  cases event with
  | proceed actor draw =>
      cases acts
      cases calling with
      | none => exact .inl ⟨draw, rfl, rfl⟩
      | some call =>
          refine .inr (.inl ?_)
          simp only [step, proceed, own]
  | answer actor answer =>
      cases acts
      refine .inr (.inl ?_)
      simp only [step, World.answer, own]
  | respond actor answer =>
      cases acts
      refine .inr ?_
      cases calling with
      | none =>
          refine .inl ?_
          simp only [step, respond, own]
      | some call =>
          obtain ⟨request, deadline⟩ := call
          simp only [step, respond, own]
          split
          · exact .inl rfl
          · refine .inr ?_
            cases answer with
            | value | failed | panicked => exact ended _ _
  | expire actor =>
      cases acts
      refine .inr ?_
      simp only [step, expire]
      split
      · exact .inl rfl
      · cases calling with
        | none =>
            refine .inl ?_
            simp only [own]
        | some call =>
            simp only [own, expirePull]
            split
            · exact .inl rfl
            · exact .inr (ended _ _)
  | abort actor =>
      cases acts
      refine .inr (.inr ?_)
      simp only [step, abort, own]
      exact ended _ _
  | _ => cases acts

/-- A pull that waits after an event waited before, or its cycle has just called the broker. -/
theorem Proper.awaited (proper : world.Proper)
    (awaits : (world.step event).1.Awaits task name request deadline) :
    world.Awaits task name request deadline ∨ ∃ draw size timeout hook,
      event = .proceed task draw ∧
      world.tasks.get? task = some (.pull name size timeout hook none) := by
  obtain ⟨size, timeout, hook, own⟩ := awaits
  rcases (proper.doneBy event).arrived _ _ own with same | ⟨_, start⟩ | ⟨acts, old, there, origin⟩
  · exact .inl ⟨size, timeout, hook, same⟩
  · cases start
  · cases old with
    | schedule | scheduledFlush | drain | handBack | refresh => cases origin
    | pull other _ _ _ calling =>
        cases origin
        rcases step_of_pull there acts with ⟨draw, proceeds, uncalled⟩ | stays | ended
        · subst uncalled
          exact .inr ⟨draw, size, timeout, hook, proceeds, there⟩
        · rw [stays] at own
          exact .inl ⟨size, timeout, hook, own⟩
        · exact absurd (own.symm.trans ended) (Option.some_ne_none _)

/-- A cycle that waits for an answer has just called the broker, or it waited before. -/
theorem run_awaited
    (awaits : (((initial epoch settings).run events).step event).1.Awaits task name request
      deadline) :
    ((initial epoch settings).run events).Awaits task name request deadline ∨
      ∃ entry size timeout hook,
        ((initial epoch settings).run events).entries.get? name = some entry ∧
        Pulls ((initial epoch settings).run events) task name entry size timeout hook
          (((initial epoch settings).run events).step event).1 ∧
        request = ((initial epoch settings).run events).request entry size timeout := by
  rcases (run_proper epoch settings events).awaited awaits with
    before | ⟨draw, size, timeout, hook, rfl, own⟩
  · exact .inl before
  · obtain ⟨_, _, _, waiting⟩ := awaits
    simp only [step, proceed, own] at waiting ⊢
    cases present : ((initial epoch settings).run events).entries.get? name with
    | none =>
        simp only [beginPull, present] at waiting
        cases own.symm.trans waiting
    | some entry =>
        have handing := run_handing present
        cases gates : Gate.first? ((initial epoch settings).run events)
            (handBacks name (initial epoch settings) events) entry with
        | some gate =>
            have halts := handing.halts present gates task size timeout hook
            exact absurd (waiting.symm.trans halts.ended) (Option.some_ne_none _)
        | none =>
            have pulls := handing.pulls present gates task size timeout hook
            cases waiting.symm.trans pulls.own
            exact .inr ⟨entry, size, timeout, hook, rfl, pulls, rfl⟩

/-- The entry of a pull that waits is listed. -/
theorem run_awaited_listed
    (awaits : ((initial epoch settings).run events).Awaits task name request deadline) :
    ∃ entry, ((initial epoch settings).run events).entries.get? name = some entry := by
  induction events using List.reverseRecOn with
  | nil =>
      obtain ⟨_, _, _, own⟩ := awaits
      exact absurd own.symm (Option.some_ne_none _)
  | append_singleton rest event ih =>
      have listed : ∃ entry, ((initial epoch settings).run rest).entries.get? name =
          some entry := by
        rw [run_append] at awaits
        rcases run_awaited awaits with before | ⟨entry, _, _, _, present, _⟩
        · exact ih before
        · exact ⟨entry, present⟩
      obtain ⟨entry, present⟩ := listed
      obtain ⟨next, there, _⟩ := run_endures present [event]
      exact ⟨next, there⟩

/-- A pull that waits is one of the object in use, if the name was not removed since its call. -/
theorem run_awaited_found {earlier since : List Event}
    (fresh : ¬ ((initial epoch settings).run earlier).Awaits task name request deadline)
    (kept : ∀ event ∈ since, event.removes request.brokerGroup.name = false)
    (awaits : ((initial epoch settings).run (earlier ++ since)).Awaits task name request deadline) :
    ((initial epoch settings).run (earlier ++ since)).registry.find? request.brokerGroup.name =
      some request.brokerGroup := by
  induction since using List.reverseRecOn with
  | nil =>
      rw [List.append_nil] at awaits
      exact absurd awaits fresh
  | append_singleton rest event ih =>
      rw [← List.append_assoc, run_append] at awaits ⊢
      rcases run_awaited awaits with before | ⟨entry, _, _, _, _, pulls, rfl⟩
      · have listed := ih (fun next member => kept next (List.mem_append_left _ member)) before
        refine (step_surroundings _ event).find? listed (kept event ?_)
        exact List.mem_append_right _ List.mem_cons_self
      · -- The request names the group that the cycle has looked up.
        have found := pulls.found
        rw [GroupRegistry.name_of_find? found]
        exact found

end Waiting

/-! ### Trips -/

/-- What takes a broker group out of use: a pull of the group fails or is late, or the group rejects
a request. A failed pull returns its fault, and a late one a transport fault that names the group
and the time allowed. -/
inductive Trips (world : World) (group : GroupRef) : Event → Option (TaskId × Fault) → Prop
  | failed {task name request deadline} (fault : Fault)
      (awaits : world.Awaits task name request deadline) (asked : request.brokerGroup = group) :
      Trips world group (.respond task (.failed fault)) (some (task, fault))
  | late {task name request deadline} (awaits : world.Awaits task name request deadline)
      (asked : request.brokerGroup = group) (due : deadline ≤ world.clock) :
      Trips world group (.expire task) (some (task, .transport
        s!"pull request to {request.brokerGroup.name} timed out after {request.requestTimeout}ms"))
  | rejected {task name request deadline} (response : PullResponse)
      (awaits : world.Awaits task name request deadline) (rejects : response.code = .brokerReject)
      (answering : response.brokerGroup = group) :
      Trips world group (.respond task (.value response)) none
  | handled {name} (entry : PullEntry) (request : PullRequest) (response : PullResponse)
      (hook : Option HookId) (present : world.entries.get? name = some entry)
      (rejects : response.code = .brokerReject) (answering : response.brokerGroup = group) :
      Trips world group (.handle name request response hook) none

/-- What a trip leaves: the group is unavailable. A failure counts as one and is returned, with all
queues and windows as they were; a rejection does not count. -/
structure Tripped (group : GroupRef) (failure : Option (TaskId × Fault)) (before after : World) :
    Prop where
  unavailable : after.registry.isAvailable group = false
  failures : (after.registry.health group).failures =
    (before.registry.health group).failures + if failure.isSome then 1 else 0
  names : ∀ name, after.registry.find? name = before.registry.find? name
  returned : ∀ task fault, failure = some (task, fault) →
    after.results.get? task = some (.failed fault) ∧ after.queues = before.queues ∧
      ∀ entry, after.windowOf entry = before.windowOf entry

/-- A change of the registry that is that of a failure. -/
theorem tripped_of_fails {task : TaskId} {entry : PullEntry} {fault : Fault}
    {middle : World} (queues : middle.queues = before.queues)
    (registry : middle.registry = before.registry) :
    Tripped group (some (task, fault)) before
      ((middle.markFailed entry group).finish task (.failed fault)) := by
  have shared := surroundings_finish (middle.markFailed entry group) task (.failed fault)
  rw [surroundings_markFailed] at shared
  have marked : ((middle.markFailed entry group).finish task (.failed fault)).registry =
      before.registry.markFailed group := by
    rw [← registry]
    exact congrArg Surroundings.registry shared
  have health : (before.registry.markFailed group).health group =
      (before.registry.health group).markFailed := by
    rw [GroupRegistry.markFailed, GroupRegistry.health_change, if_pos rfl]
  have same : ((middle.markFailed entry group).finish task (.failed fault)).queues =
      before.queues := by
    rw [(frame_finish _ task _).1, markFailed, (frame_emitAll _ _).1]
    exact (frame_count middle .pullFail (labelsOf entry) 1).1.trans queues
  refine ⟨?_, ?_, fun name => ?_, fun other returned here => ?_⟩
  · rw [marked, GroupRegistry.isAvailable, health]
    rfl
  · rw [marked, health]
    rfl
  · rw [marked]
    rfl
  · cases here
    refine ⟨(get?_finish _ task _).2, same, fun other => ?_⟩
    rw [windowOf, windowOf, same]

/-- A change of the registry that is that of a rejection. -/
theorem tripped_of_rejects (registry : after.registry = before.registry.setAvailable group false) :
    Tripped group none before after := by
  have health : (before.registry.setAvailable group false).health group =
      (before.registry.health group).setAvailable false := by
    rw [GroupRegistry.setAvailable, GroupRegistry.health_change, if_pos rfl]
  refine ⟨?_, ?_, fun name => ?_, by rintro _ _ ⟨⟩⟩
  · rw [registry, GroupRegistry.isAvailable, health]
    rfl
  · rw [registry, health]
    exact (UInt32.add_zero _).symm
  · rw [registry]
    rfl

/-- A failure that counts, and a rejection, take the group out of use. -/
theorem Trips.tripped {failure : Option (TaskId × Fault)} (trips : Trips world group event failure)
    (listed : ∀ task name request deadline, world.Awaits task name request deadline →
      ∃ entry, world.entries.get? name = some entry) :
    Tripped group failure world (world.step event).1 := by
  cases trips with
  | failed fault awaits asked =>
      obtain ⟨entry, present⟩ := listed _ _ _ _ awaits
      obtain ⟨_, _, _, own⟩ := awaits
      simp only [step, respond, own, present, asked]
      exact tripped_of_fails rfl rfl
  | late awaits asked due =>
      subst asked
      obtain ⟨entry, present⟩ := listed _ _ _ _ awaits
      obtain ⟨_, _, _, own⟩ := awaits
      have passed : ¬ world.clock < _ := Nat.not_lt.mpr due
      simp only [step, expire, due?, own, Option.all_some, passed, decide_false, Bool.false_eq_true,
        if_false, expirePull, present]
      exact tripped_of_fails rfl rfl
  | rejected response awaits rejects answering =>
      rename_i task name request deadline
      obtain ⟨entry, present⟩ := listed _ _ _ _ awaits
      obtain ⟨_, _, hook, own⟩ := awaits
      refine tripped_of_rejects ?_
      simp only [step, respond, own, present]
      have handled := surroundings_handle (world.record (.responded task (.value response))) entry
        request response hook
      rw [if_pos rejects, answering] at handled
      have shared := (surroundings_finish _ task
        (.delivered ((world.record (.responded task (.value response))).handle entry request
          response hook).2)).trans handled
      exact congrArg Surroundings.registry shared
  | handled entry request response hook present rejects answering =>
      refine tripped_of_rejects ?_
      simp only [step, present]
      have handled := surroundings_handle world entry request response hook
      rw [if_pos rejects, answering] at handled
      exact congrArg Surroundings.registry handled

/-! ### Runs -/

/-- While a broker group is out of use, no request is made of it, and every cycle of an entry of the
group that is neither torn down nor a placeholder ends with no messages and without a call. -/
structure Barred (world : World) (begun : EntryId → List (TaskId × HandBack)) (group : GroupRef) :
    Prop where
  out : world.registry.OutOfUse group
  unasked : ∀ name event request, request ∈ world.pullsIn name event →
    request.brokerGroup.name ≠ group.name
  halted : ∀ name entry task draw size timeout hook, world.entries.get? name = some entry →
    entry.assignment.brokerGroup = group.name →
    Gate.isShut world (begun name) entry .tornDown = false →
    Gate.isShut world (begun name) entry .placeholder = false →
    world.tasks.get? task = some (.pull name size timeout hook none) →
    ∃ gate, gate.result = .delivered [] ∧
      Halts world task entry gate (world.step (.proceed task draw)).1

/-- No entry of a group out of use pulls. -/
theorem run_barred (out : ((initial epoch settings).run events).registry.OutOfUse group) :
    Barred ((initial epoch settings).run events)
      (fun name => handBacks name (initial epoch settings) events) group := by
  have shut : ∀ entry begun, entry.assignment.brokerGroup = group.name →
      Gate.isShut ((initial epoch settings).run events) begun entry .unavailable = true := by
    intro entry begun about
    rw [Gate.isShut, about, out.listed, Option.all_some, out.unavailable]
    rfl
  refine ⟨out, fun name event request member about => ?_,
    fun name entry task draw size timeout hook present about standing regular own => ?_⟩
  · obtain ⟨entry, task, draw, size, timeout, hook, _, _, _, gates, pulls, rfl⟩ := run_pulled member
    rw [GroupRegistry.name_of_find? pulls.found] at about
    have opened := Gate.first?_eq_none.mp gates .unavailable
    exact Bool.false_ne_true (opened.symm.trans (shut entry _ about))
  · have handing := run_handing present
    have unavailable := shut entry (handBacks name (initial epoch settings) events) about
    have begins : (((initial epoch settings).run events).step (.proceed task draw)).1 =
        ((initial epoch settings).run events).beginPull task name size timeout hook := by
      simp only [step, proceed, own]
    rw [begins]
    -- The lease is looked at before the group.
    cases expired : Gate.isShut ((initial epoch settings).run events)
        (handBacks name (initial epoch settings) events) entry .expired with
    | true =>
        refine ⟨.expired, rfl, handing.halts present ?_ task size timeout hook⟩
        rw [Gate.first?_eq, standing, regular, expired]
        rfl
    | false =>
        refine ⟨.unavailable, rfl, handing.halts present ?_ task size timeout hook⟩
        rw [Gate.first?_eq, standing, regular, expired, unavailable]
        rfl

/-- **Failover.** In every run, a pull that waits for its answer is one of the object in use under
the name of its group, unless that name was removed since the call. When the pull fails or is late,
or when the object in use rejects a request, the group is out of use: no request is made of it and
no cycle of its entries delivers anything, until the group is announced again, set available by hand
or removed. -/
theorem run_failedOver (epoch : Nat) (settings : Settings) (events : List Event) :
    (∀ task name request deadline,
      ((initial epoch settings).run events).Awaits task name request deadline →
      ∀ earlier since, events = earlier ++ since →
        ¬ ((initial epoch settings).run earlier).Awaits task name request deadline →
        (∀ event ∈ since, event.removes request.brokerGroup.name = false) →
        ((initial epoch settings).run events).registry.find? request.brokerGroup.name =
          some request.brokerGroup) ∧
    ∀ group event failure, Trips ((initial epoch settings).run events) group event failure →
      Tripped group failure ((initial epoch settings).run events)
        (((initial epoch settings).run events).step event).1 ∧
      (((initial epoch settings).run events).registry.find? group.name = some group →
        ∀ later, (∀ next ∈ later,
          next.restores group = false ∧ next.removes group.name = false) →
        Barred ((initial epoch settings).run (events ++ event :: later))
          (fun name => handBacks name (initial epoch settings)
            (events ++ event :: later)) group) := by
  refine ⟨fun task name request deadline awaits earlier since split fresh kept => ?_,
    fun group event failure trips => ?_⟩
  · subst split
    exact run_awaited_found fresh kept awaits
  · have tripped := trips.tripped fun _ _ _ _ awaits => run_awaited_listed awaits
    refine ⟨tripped, fun listed later spared => run_barred ?_⟩
    have sound : ((initial epoch settings).run events).registry.Sound :=
      run_sound GroupRegistry.sound_empty events
    rw [run_append]
    refine run_outOfUse ((step_surroundings _ event).sound sound) ?_ spared
    exact ⟨(tripped.names group.name).trans listed, tripped.unavailable⟩

/-- A pull of a broker group has been called. -/
def pulling : List Event :=
  [.openEntry (.ofNames "s" "g" "p" "b" "c" .shared) (.ofNames "s" "g" "c"),
    .begin (.pull 0 10 100 none), .proceed 1 0]

/-- Its entry and a second one for the same group begin to pull. -/
def pullingAgain : List Event :=
  [.begin (.pull 0 10 100 none), .tick 5,
    .openEntry (.ofNames "t" "g" "p" "b" "c" .shared) (.ofNames "t" "g" "c"),
    .begin (.pull 1 10 100 none)]

/-- When the pull has failed, neither of the later ones calls the group. Had it been late, it would
have returned a transport fault. -/
theorem run_failedOver_pulling :
    (((initial 0 .standard).run pulling).step
        (.respond 1 (.failed (.transport "down")))).1.results.get? 1 =
          some (.failed (.transport "down")) ∧
      (∀ name event request, request ∈ ((initial 0 .standard).run
        (pulling ++ .respond 1 (.failed (.transport "down")) :: pullingAgain)).pullsIn name event →
        request.brokerGroup.name ≠ "b") ∧
      (((initial 0 .standard).run (pulling ++ [.tick 8000])).step (.expire 1)).1.results.get? 1 =
        some (.failed (.transport "pull request to b timed out after 8000ms")) := by
  obtain ⟨_, trip⟩ := run_failedOver 0 .standard pulling
  obtain ⟨_, lateTrip⟩ := run_failedOver 0 .standard (pulling ++ [.tick 8000])
  have fails : Trips ((initial 0 .standard).run pulling) ⟨"b", 0⟩
      (.respond 1 (.failed (.transport "down"))) (some (1, .transport "down")) :=
    .failed _ ⟨10, 100, none, by rfl⟩ (by rfl)
  obtain ⟨request, waits, target, allowed⟩ : ∃ request,
      ((initial 0 .standard).run (pulling ++ [.tick 8000])).Awaits 1 0 request 8000 ∧
        request.brokerGroup = ⟨"b", 0⟩ ∧ request.requestTimeout = 8000 :=
    ⟨_, ⟨10, 100, none, rfl⟩, rfl, rfl⟩
  have late : Trips ((initial 0 .standard).run (pulling ++ [.tick 8000])) ⟨"b", 0⟩ (.expire 1)
      (some (1, .transport "pull request to b timed out after 8000ms")) := by
    have trips := Trips.late waits target (Nat.le_refl 8000)
    rw [target, allowed] at trips
    exact trips
  obtain ⟨tripped, barred⟩ := trip ⟨"b", 0⟩ _ _ fails
  obtain ⟨trippedLate, _⟩ := lateTrip ⟨"b", 0⟩ _ _ late
  have spared : ∀ next ∈ pullingAgain,
      next.restores ⟨"b", 0⟩ = false ∧ next.removes "b" = false := by
    intro next member
    simp only [pullingAgain, List.mem_cons, List.not_mem_nil, or_false] at member
    rcases member with rfl | rfl | rfl | rfl <;> exact ⟨rfl, rfl⟩
  exact ⟨(tripped.returned 1 _ rfl).1, (barred (by rfl) pullingAgain spared).unasked,
    (trippedLate.returned 1 _ rfl).1⟩

end World

end PullConsumer
