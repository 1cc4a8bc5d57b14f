import PullConsumer.Proofs.Broker.Registry
import PullConsumer.Proofs.Client.Calls
import PullConsumer.Proofs.Client.Handover
import PullConsumer.Proofs.Client.Surroundings

/-! # Pull cycles and their gates

A pull cycle looks at four gates. At the first shut gate it ends without a call
(`World.Handing.halts`), and when all are open it calls the broker (`World.Handing.pulls`). No other
event asks a broker for messages (`World.run_pulled`).
-/

namespace PullConsumer

/-- What keeps a pull cycle from the broker, in the order in which it is looked at. -/
inductive Gate
  /-- The teardown of the entry has begun. -/
  | tornDown
  | placeholder
  /-- The lease of the entry has run out. -/
  | expired
  /-- The broker group of the entry is out of use. -/
  | unavailable
deriving DecidableEq

namespace Gate

/-- All gates in order. -/
def all : List Gate := [.tornDown, .placeholder, .expired, .unavailable]

/-- Whether a gate is shut for an entry, given the hand-backs that were begun for it. -/
def isShut (world : World) (begun : List (TaskId × HandBack)) (entry : PullEntry) : Gate → Bool
  | .tornDown => begun.any (·.2 = .destroy)
  | .placeholder => entry.assignment.isPlaceholder
  | .expired => entry.assignment.isExpired (world.epoch + world.clock)
  | .unavailable =>
    !(world.registry.find? entry.assignment.brokerGroup).all world.registry.isAvailable

/-- The first shut gate of an entry. -/
def first? (world : World) (begun : List (TaskId × HandBack)) (entry : PullEntry) : Option Gate :=
  all.find? (isShut world begun entry)

/-- How a cycle ends at a shut gate. -/
def result : Gate → TaskResult
  | .tornDown => .failed .entryDestroyed
  | .placeholder => .failed .placeholderEntry
  | .expired | .unavailable => .delivered []

/-- What a cycle tells at a shut gate. -/
def notices (entry : PullEntry) : Gate → List Notice
  | .tornDown | .placeholder => []
  | .expired => [.leaseExpired entry.assignment.subject entry.assignment.partition]
  | .unavailable => [.groupUnavailable entry.assignment.brokerGroup]

/-- At the first shut gate the gates before it are open. -/
theorem first?_eq (world : World) (begun : List (TaskId × HandBack)) (entry : PullEntry) :
    first? world begun entry =
      if isShut world begun entry .tornDown then some .tornDown
      else if isShut world begun entry .placeholder then some .placeholder
      else if isShut world begun entry .expired then some .expired
      else if isShut world begun entry .unavailable then some .unavailable
      else none := by
  simp only [first?, all, List.find?_cons, List.find?_nil]
  cases isShut world begun entry .tornDown
  · cases isShut world begun entry .placeholder
    · cases isShut world begun entry .expired
      · cases isShut world begun entry .unavailable <;> rfl
      · rfl
    · rfl
  · rfl

/-- A pull goes out exactly if every gate is open. -/
theorem first?_eq_none {world : World} {begun : List (TaskId × HandBack)} {entry : PullEntry} :
    first? world begun entry = none ↔ ∀ gate, isShut world begun entry gate = false := by
  rw [first?, List.find?_eq_none]
  constructor
  · intro opened gate
    refine Bool.eq_false_iff.mpr (opened gate ?_)
    cases gate with
    | tornDown | placeholder | expired | unavailable => decide
  · intro opened gate _
    exact Bool.eq_false_iff.mp (opened gate)

end Gate

/-- The entry whose pull cycle a task runs. -/
def Task.pullOf? : Task → Option EntryId
  | .pull entry .. => some entry
  | _ => none

/-- What a call asks a broker for. -/
def Call.request? : Call → Option PullRequest
  | .pull request _ => some request
  | _ => none

namespace World

variable {world before after : World} {task : TaskId} {name : EntryId} {entry : PullEntry}

/-- The request that a line tells of, if a pull cycle of the entry has made it. -/
def requestBy? (world : World) (name : EntryId) : Mark → Option PullRequest
  | .called task call =>
    if (world.tasks.get? task).bind Task.pullOf? = some name then call.request? else none
  | _ => none

/-- The requests that pull cycles of an entry make during an event. -/
def pullsIn (world : World) (name : EntryId) (event : Event) : List PullRequest :=
  (Account.ofEffects ((world.step event).1.since world)).filterMap (world.requestBy? name)

/-- The requests that pull cycles of an entry make during a list of events, in order. -/
def pulls (name : EntryId) : World → List Event → List PullRequest
  | _, [] => []
  | world, event :: rest => world.pullsIn name event ++ pulls name (world.step event).1 rest

/-- Every request of a run was made during one of its events. -/
theorem mem_pulls {request : PullRequest} {events : List Event}
    (member : request ∈ pulls name world events) : ∃ earlier event later,
      events = earlier ++ event :: later ∧ request ∈ (world.run earlier).pullsIn name event := by
  induction events generalizing world with
  | nil => exact absurd member List.not_mem_nil
  | cons event rest ih =>
      rcases List.mem_append.mp member with now | after
      · exact ⟨[], event, rest, rfl, now⟩
      · obtain ⟨earlier, current, later, rfl, made⟩ := ih after
        exact ⟨event :: earlier, current, later, rfl, made⟩

theorem pulls_append (name : EntryId) (world : World) (first second : List Event) :
    pulls name world (first ++ second) =
      pulls name world first ++ pulls name (world.run first) second := by
  induction first generalizing world with
  | nil => rfl
  | cons event rest ih =>
      rw [List.cons_append, pulls, pulls, ih, List.append_assoc]
      rfl

theorem handBacks_append (name : EntryId) (world : World) (first second : List Event) :
    handBacks name world (first ++ second) =
      handBacks name world first ++ handBacks name (world.run first) second := by
  induction first generalizing world with
  | nil => rfl
  | cons event rest ih =>
      rw [List.cons_append, handBacks, handBacks, ih, List.append_assoc]
      rfl

/-! ### The beginning of a cycle -/

/-- A cycle ends at a gate: it returns what the gate returns, logs what the gate logs, and calls,
counts and changes nothing. -/
structure Halts (before : World) (task : TaskId) (entry : PullEntry) (gate : Gate)
    (after : World) : Prop where
  result : after.results.get? task = some gate.result
  ended : after.tasks.get? task = none
  since : after.since before = (gate.notices entry).map Effect.notice
  queues : after.queues = before.queues
  entries : after.entries = before.entries
  surroundings : after.surroundings = before.surroundings

/-- The request of a cycle that calls the broker. -/
def request (world : World) (entry : PullEntry) (size timeout : Nat) : PullRequest :=
  world.requestOf entry entry.consume (world.registry.lookUp entry.assignment.brokerGroup).2
    (world.windowOf entry) size timeout

/-- A cycle calls the broker: it waits for the answer, and the queues are as before. -/
structure Pulls (before : World) (task : TaskId) (name : EntryId) (entry : PullEntry)
    (size timeout : Nat) (hook : Option HookId) (after : World) : Prop where
  own : after.tasks.get? task = some (.pull name size timeout hook
    (some (before.request entry size timeout,
      before.clock + (before.request entry size timeout).requestTimeout)))
  tells : before.Tells [.called task (.pull (before.request entry size timeout) true)] after
  queues : after.queues = before.queues
  entries : after.entries = before.entries
  registry : after.registry = (before.registry.lookUp entry.assignment.brokerGroup).1
  found : after.registry.find? entry.assignment.brokerGroup =
    some (before.request entry size timeout).brokerGroup
  available : after.registry.isAvailable (before.request entry size timeout).brokerGroup = true

/-- A task that finishes has no effect. -/
theorem finish_history (world : World) (task : TaskId) (result : TaskResult) :
    (world.finish task result).history = world.history := by
  unfold finish
  split
  · unfold wake
    dsimp only
    split <;> rfl
  · rfl

/-- What has been told newly is what has happened since. -/
theorem since_of_history {fresh : List Effect} (history : after.history = fresh ++ before.history) :
    after.since before = fresh.reverse := by
  rw [World.since, history, List.length_append, Nat.add_sub_cancel, List.take_left]

/-- A task that ends with nothing but notices. -/
theorem halts_of_finish (gate : Gate) (noted : after.history =
      ((gate.notices entry).map Effect.notice).reverse ++ before.history)
    (queues : after.queues = before.queues) (entries : after.entries = before.entries)
    (surroundings : after.surroundings = before.surroundings) :
    Halts before task entry gate (after.finish task gate.result) := by
  obtain ⟨sameQueues, _, sameEntries, _, _⟩ := frame_finish after task gate.result
  obtain ⟨ended, result⟩ := get?_finish after task gate.result
  refine ⟨result, ended, ?_, sameQueues.trans queues, sameEntries.trans entries,
    (surroundings_finish after task gate.result).trans surroundings⟩
  rw [since_of_history ((finish_history after task gate.result).trans noted), List.reverse_reverse]

variable {begun : List (TaskId × HandBack)} {released : List Call}

/-- The first two gates are marks of the entry. -/
theorem Handing.gates (handing : world.Handing name entry begun released) :
    Gate.isShut world begun entry .tornDown = entry.destroyed ∧
      Gate.isShut world begun entry .placeholder = entry.queue.isNone := by
  constructor
  · rw [handing.destroyed, List.isSome_find?]
    rfl
  · rw [Bool.eq_iff_iff, Option.isNone_iff_eq_none]
    exact handing.queue.symm

/-- At the first shut gate a cycle ends. -/
theorem Handing.halts (handing : world.Handing name entry begun released)
    (present : world.entries.get? name = some entry) {gate : Gate}
    (shut : Gate.first? world begun entry = some gate) (task : TaskId) (size timeout : Nat)
    (hook : Option HookId) :
    Halts world task entry gate (world.beginPull task name size timeout hook) := by
  obtain ⟨tornDown, placeholder⟩ := handing.gates
  have expired : Gate.isShut world begun entry .expired =
    entry.assignment.isExpired (world.epoch + world.clock) := rfl
  rw [Gate.first?_eq, tornDown, placeholder, expired] at shut
  simp only [beginPull, present]
  cases destroyed : entry.destroyed with
  | true =>
      rw [destroyed, if_pos rfl] at shut
      cases shut
      exact halts_of_finish .tornDown rfl rfl rfl rfl
  | false =>
      rw [destroyed, if_neg Bool.false_ne_true] at shut
      rw [if_neg Bool.false_ne_true]
      split at shut
      · rename_i unqueued
        cases shut
        rw [if_pos unqueued]
        exact halts_of_finish .placeholder rfl rfl rfl rfl
      · rename_i queued
        rw [if_neg queued]
        split at shut
        · rename_i expired
          cases shut
          rw [if_pos expired]
          exact halts_of_finish .expired rfl rfl rfl rfl
        · rename_i leased
          rw [if_neg leased]
          split at shut
          · rename_i unavailable
            cases shut
            -- The group is in use already, as a new one would be available.
            cases found : world.registry.find? entry.assignment.brokerGroup with
            | none =>
                simp only [Gate.isShut, found, Option.all_none, Bool.not_true,
                  Bool.false_eq_true] at unavailable
            | some group =>
                simp only [Gate.isShut, found, Option.all_some] at unavailable
                rw [GroupRegistry.lookUp_of_find? found]
                simp only [unavailable, if_true, GroupRegistry.name_of_find? found]
                exact halts_of_finish .unavailable rfl rfl rfl rfl
          · cases shut

/-- When all gates are open a cycle calls the broker. -/
theorem Handing.pulls (handing : world.Handing name entry begun released)
    (present : world.entries.get? name = some entry)
    (opened : Gate.first? world begun entry = none) (task : TaskId) (size timeout : Nat)
    (hook : Option HookId) :
    Pulls world task name entry size timeout hook
      (world.beginPull task name size timeout hook) := by
  obtain ⟨tornDown, placeholder⟩ := handing.gates
  have gates := Gate.first?_eq_none.mp opened
  have standing : entry.destroyed = false := tornDown ▸ gates .tornDown
  have regular : entry.queue.isNone = false := placeholder ▸ gates .placeholder
  have leased : entry.assignment.isExpired (world.epoch + world.clock) = false := gates .expired
  have available : (world.registry.lookUp entry.assignment.brokerGroup).1.isAvailable
      (world.registry.lookUp entry.assignment.brokerGroup).2 = true := by
    rw [GroupRegistry.isAvailable_lookUp]
    simpa only [Gate.isShut, Bool.not_eq_false'] using gates .unavailable
  -- What is counted on the way concerns neither the settings nor the queues.
  have counted := World.frame_count
    { world with registry := (world.registry.lookUp entry.assignment.brokerGroup).1 }
    .pullWork (labelsOf entry) 1
  have shared := surroundings_count
    { world with registry := (world.registry.lookUp entry.assignment.brokerGroup).1 }
    .pullWork (labelsOf entry) 1
  have told := tells_count
    { world with registry := (world.registry.lookUp entry.assignment.brokerGroup).1 }
    .pullWork (labelsOf entry) 1
  unfold beginPull
  simp only [present, standing, regular, leased, available, Bool.not_true, Bool.false_eq_true,
    if_false]
  generalize World.count _ .pullWork (labelsOf entry) 1 = middle at counted shared told ⊢
  obtain ⟨queues, tasks, entries, _, _⟩ := counted
  have live : middle.live = world.live := congrArg Surroundings.live shared
  have registry : middle.registry =
      (world.registry.lookUp entry.assignment.brokerGroup).1 :=
    congrArg Surroundings.registry shared
  have asked : middle.requestOf entry entry.consume
      (world.registry.lookUp entry.assignment.brokerGroup).2 (middle.windowOf entry) size timeout =
      world.request entry size timeout := by
    simp only [request, requestOf, timeoutOf, windowOf, live, queues]
  rw [asked]
  refine ⟨?_, ?_, queues, entries, registry, ?_, ?_⟩
  · exact (Table.get?_set ..).trans (if_pos rfl)
  · have start : world.Tells [] middle := .trans (.of_eq rfl) told
    exact (start.trans (.of_eq rfl)).trans (tells_record _ _)
  · change middle.registry.find? _ = _
    rw [registry]
    exact GroupRegistry.find?_lookUp_self _ _
  · change middle.registry.isAvailable _ = _
    rw [registry]
    exact available

/-! ### What an entry keeps -/

/-- Entries that differ in their marks at most. -/
structure Endures (entry next : PullEntry) : Prop where
  assignment : next.assignment = entry.assignment
  consume : next.consume = entry.consume
  queue : next.queue = entry.queue

theorem Endures.refl (entry : PullEntry) : Endures entry entry :=
  ⟨rfl, rfl, rfl⟩

theorem Endures.trans {first second third : PullEntry} (earlier : Endures first second)
    (later : Endures second third) : Endures first third where
  assignment := later.assignment.trans earlier.assignment
  consume := later.consume.trans earlier.consume
  queue := later.queue.trans earlier.queue

/-- An entry stays listed and keeps what it was made with. -/
theorem Handover.endures (handover : world.Handover name begun released) (proper : world.Proper)
    (event : Event) (present : world.entries.get? name = some entry) :
    ∃ next, (world.step event).1.entries.get? name = some next ∧ Endures entry next := by
  have marked : ∀ {target : EntryId} {other marked : PullEntry},
      world.entries.get? target = some other → Endures other marked →
      ∃ next, (if target = name then some marked else world.entries.get? name) = some next ∧
        Endures entry next := by
    intro target other marked there endures
    split
    · rename_i same
      subst same
      cases present.symm.trans there
      exact ⟨marked, rfl, endures⟩
    · exact ⟨entry, present, .refl entry⟩
  have handles := proper.handles event
  generalize (world.step event).1 = after at handles
  cases handles with
  | aside aside keepsEntries =>
      rw [keepsEntries.entries]
      exact ⟨entry, present, .refl entry⟩
  | lists assignment consume lists =>
      have older : world.nextEntry ≠ name := by
        intro fresh
        have unlisted := handover.unused (Nat.le_of_eq fresh)
        exact Option.some_ne_none entry (present.symm.trans unlisted)
      rw [lists.entries, if_neg older]
      exact ⟨entry, present, .refl entry⟩
  | waits draw own unbegun => exact ⟨entry, present, .refl entry⟩
  | begins draw own there begins =>
      rw [begins.entries]
      exact marked there ⟨rfl, rfl, rfl⟩
  | concludes draw own there concludes =>
      rw [concludes.entries]
      exact marked there ⟨rfl, rfl, rfl⟩

/-- An entry was there before an event, or the event made it. -/
theorem Proper.listed (proper : world.Proper) {event : Event}
    (present : (world.step event).1.entries.get? name = some entry) :
    (∃ earlier, world.entries.get? name = some earlier ∧ Endures earlier entry) ∨
      name = world.nextEntry ∧ ∃ consume, event = .openEntry entry.assignment consume := by
  have marked : ∀ {target : EntryId} {other marked : PullEntry},
      world.entries.get? target = some other → Endures other marked →
      (if target = name then some marked else world.entries.get? name) = some entry →
      ∃ earlier, world.entries.get? name = some earlier ∧ Endures earlier entry := by
    intro target other marked there endures found
    split at found
    · rename_i same
      cases found
      exact ⟨other, same ▸ there, endures⟩
    · exact ⟨entry, found, .refl entry⟩
  have handles := proper.handles event
  generalize (world.step event).1 = after at handles present
  cases handles with
  | aside aside keepsEntries =>
      rw [keepsEntries.entries] at present
      exact .inl ⟨entry, present, .refl entry⟩
  | lists assignment consume lists =>
      rw [lists.entries] at present
      split at present
      · rename_i fresh
        cases present
        rw [lists.made.1]
        exact .inr ⟨fresh.symm, consume, rfl⟩
      · exact .inl ⟨entry, present, .refl entry⟩
  | waits draw own unbegun => exact .inl ⟨entry, present, .refl entry⟩
  | begins draw own there begins =>
      rw [begins.entries] at present
      refine .inl (marked there ?_ present)
      exact ⟨rfl, rfl, rfl⟩
  | concludes draw own there concludes =>
      rw [concludes.entries] at present
      refine .inl (marked there ?_ present)
      exact ⟨rfl, rfl, rfl⟩

/-- An entry outlives a run, changed in its marks at most. -/
theorem Handover.endures_run (handover : world.Handover name begun released)
    (proper : world.Proper) (events : List Event)
    (present : world.entries.get? name = some entry) :
    ∃ next, (world.run events).entries.get? name = some next ∧ Endures entry next := by
  induction events generalizing world begun released entry with
  | nil => exact ⟨entry, present, .refl entry⟩
  | cons event rest ih =>
      obtain ⟨next, there, endures⟩ := handover.endures proper event present
      obtain ⟨last, found, kept⟩ := ih (handover.step proper event) (proper.step event) there
      exact ⟨last, found, endures.trans kept⟩

/-! ### Who pulls -/

/-- A pull is called for by a cycle that begins. -/
theorem MayCall.pulls {event : Event} {call : Call} (may : world.MayCall event task call)
    (asks : call.isPull = true) : ∃ draw name size timeout hook, event = .proceed task draw ∧
      world.tasks.get? task = some (.pull name size timeout hook none) := by
  cases call with
  | sendAck | sendBack | refresh | release => cases asks
  | pull request available =>
      cases event with
      | proceed actor draw =>
          obtain ⟨rfl, own, here, allowed⟩ := may
          unfold Task.mayCall at allowed
          split at allowed
          · cases allowed
          · cases allowed
          · exact ⟨draw, _, _, _, _, rfl, here⟩
          all_goals cases allowed
      | answer =>
          obtain ⟨_, _, transmits⟩ := may
          cases transmits
      | _ => exact may.elim

/-- Only a pull asks a broker for messages. -/
theorem isPull_of_request? {call : Call} {request : PullRequest}
    (asks : call.request? = some request) : call.isPull = true := by
  cases call with
  | pull => rfl
  | sendAck | sendBack | refresh | release => cases asks

/-- A request is made by a pull cycle of the entry that begins. -/
theorem Proper.pulled (proper : world.Proper) {event : Event} {request : PullRequest}
    (member : request ∈ world.pullsIn name event) :
    ∃ task draw size timeout hook, event = .proceed task draw ∧
      world.tasks.get? task = some (.pull name size timeout hook none) := by
  obtain ⟨told, tells, allowed⟩ := step_calls proper event
  rw [pullsIn, tells.ofEffects_since] at member
  obtain ⟨mark, inside, asks⟩ := List.mem_filterMap.mp member
  cases mark with
  | offered | answered => cases asks
  | called task call =>
      simp only [requestBy?] at asks
      split at asks
      · rename_i own
        obtain ⟨draw, other, size, timeout, hook, same, here⟩ :=
          (allowed task call inside).pulls (isPull_of_request? asks)
        rw [here] at own
        cases own
        exact ⟨task, draw, size, timeout, hook, same, here⟩
      · cases asks

/-- A cycle that ends at a gate makes no request. -/
theorem Halts.pullsIn {gate : Gate} {event : Event}
    (halts : Halts world task entry gate (world.step event).1) (other : EntryId) :
    world.pullsIn other event = [] := by
  have silent : Account.ofEffects ((gate.notices entry).map Effect.notice) = [] :=
    Account.ofEffects_of_remarks (Effect.remarks_notices _ id)
  rw [World.pullsIn, halts.since, silent, List.filterMap_nil]

/-- A cycle that calls the broker makes one request, for its entry. -/
theorem Pulls.pullsIn {event : Event} {size timeout : Nat} {hook : Option HookId}
    (own : world.tasks.get? task = some (.pull name size timeout hook none))
    (pulls : Pulls world task name entry size timeout hook (world.step event).1)
    (other : EntryId) :
    world.pullsIn other event =
      if name = other then [world.request entry size timeout] else [] := by
  have line : world.requestBy? other
      (.called task (.pull (world.request entry size timeout) true)) =
      if name = other then some (world.request entry size timeout) else none := by
    simp only [requestBy?, own, Option.bind_some, Task.pullOf?, Option.some.injEq, Call.request?]
  rw [World.pullsIn, pulls.tells.ofEffects_since, List.filterMap_cons, line]
  split
  · rename_i absent
    rw [if_neg fun same => Option.some_ne_none _ ((if_pos same).symm.trans absent)]
    rfl
  · rename_i asked
    split at asked
    · rename_i same
      cases asked
      rw [if_pos same]
      rfl
    · cases asked

/-- The requests of a run are those of its entries. -/
theorem Proper.pulls (proper : world.Proper) (events : List Event) :
    ∃ told, world.Tells told (world.run events) ∧ ∀ task call, Mark.called task call ∈ told →
      call.isPull = true → ∃ name request, call.request? = some request ∧
        request ∈ World.pulls name world events := by
  refine proper.placed (fun world events task call => call.isPull = true →
    ∃ name request, call.request? = some request ∧ request ∈ World.pulls name world events)
    ?_ ?_ events
  · intro world event rest task call may member asks
    obtain ⟨draw, name, size, timeout, hook, _, own⟩ := may.pulls asks
    cases call with
    | sendAck | sendBack | refresh | release => cases asks
    | pull request available =>
        refine ⟨name, request, rfl, List.mem_append_left _ ?_⟩
        refine List.mem_filterMap.mpr ⟨_, member, ?_⟩
        simp only [requestBy?, own, Option.bind_some, Task.pullOf?, if_true, Call.request?]
  · intro world event rest task call placed asks
    obtain ⟨name, request, same, found⟩ := placed asks
    exact ⟨name, request, same, List.mem_append_right _ found⟩

/-! ### Runs -/

variable {epoch : Nat} {settings : Settings} {events : List Event}

/-- After every run, the marks of an entry tell which hand-backs were begun for it. -/
theorem run_handing
    (present : ((initial epoch settings).run events).entries.get? name = some entry) :
    ((initial epoch settings).run events).Handing name entry
      (handBacks name (initial epoch settings) events)
      (releases name (initial epoch settings) events) :=
  ((handover_initial epoch settings name).run (proper_initial epoch settings) events).present
    entry present

/-- An entry stays listed along every run and keeps what it was made with. -/
theorem run_endures
    (present : ((initial epoch settings).run events).entries.get? name = some entry)
    (later : List Event) :
    ∃ next, ((initial epoch settings).run (events ++ later)).entries.get? name = some next ∧
      Endures entry next := by
  rw [run_append]
  exact ((handover_initial epoch settings name).run (proper_initial epoch settings)
    events).endures_run
    (run_proper epoch settings events) later present

/-- **Who pulls.** Whenever a request is made for an entry, a pull cycle of the entry begins, finds
all gates open and calls the broker with that request. -/
theorem run_pulled {event : Event} {request : PullRequest}
    (member : request ∈ ((initial epoch settings).run events).pullsIn name event) :
    ∃ entry task draw size timeout hook,
      ((initial epoch settings).run events).entries.get? name = some entry ∧
      event = .proceed task draw ∧
      ((initial epoch settings).run events).tasks.get? task =
        some (.pull name size timeout hook none) ∧
      Gate.first? ((initial epoch settings).run events)
        (handBacks name (initial epoch settings) events) entry = none ∧
      Pulls ((initial epoch settings).run events) task name entry size timeout hook
        (((initial epoch settings).run events).step event).1 ∧
      request = ((initial epoch settings).run events).request entry size timeout := by
  obtain ⟨task, draw, size, timeout, hook, rfl, own⟩ :=
    (run_proper epoch settings events).pulled member
  have begins : (((initial epoch settings).run events).step (.proceed task draw)).1 =
      ((initial epoch settings).run events).beginPull task name size timeout hook := by
    simp only [step, proceed, own]
  cases present : ((initial epoch settings).run events).entries.get? name with
  | none =>
      -- Without the entry nothing happens.
      have same : (((initial epoch settings).run events).step (.proceed task draw)).1 =
          (initial epoch settings).run events := by
        rw [begins]
        simp only [beginPull, present]
      rw [pullsIn, same, (Tells.of_eq rfl).ofEffects_since] at member
      exact absurd member List.not_mem_nil
  | some entry =>
      have handing := run_handing present
      cases gates : Gate.first? ((initial epoch settings).run events)
          (handBacks name (initial epoch settings) events) entry with
      | some gate =>
          have halts := handing.halts present gates task size timeout hook
          rw [← begins] at halts
          rw [halts.pullsIn] at member
          exact absurd member List.not_mem_nil
      | none =>
          have pulls := handing.pulls present gates task size timeout hook
          rw [← begins] at pulls
          rw [pulls.pullsIn own, if_pos rfl] at member
          exact ⟨entry, task, draw, size, timeout, hook, rfl, rfl, own, gates, pulls,
            List.mem_singleton.mp member⟩

end World

end PullConsumer
