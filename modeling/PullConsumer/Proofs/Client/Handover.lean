import PullConsumer.Proofs.Client.Calls
import PullConsumer.Proofs.Client.HandBacks

/-! # Hand-backs of an assignment

A pull entry may be torn down and taken offline any number of times, at the same time and with any
outcome of the flushes. The lock of its assignment is released once at most, and it has been when
the first teardown or any offline hand-back has run to its end (`World.run_released`).
-/

namespace PullConsumer

/-- Only a hand-back that waits for a flush may release a lock. -/
theorem Task.handsBack_of_mayCall {own : Task} {call : Call} (allowed : own.mayCall call = true)
    (releases : call.isRelease = true) :
    ∃ name kind drain, own = .handBack name kind (.draining drain) := by
  cases call with
  | sendAck | sendBack | pull | refresh => cases releases
  | release subject group partition broker strategy =>
      unfold Task.mayCall at allowed
      split at allowed
      · cases allowed
      · cases allowed
      · cases allowed
      · exact ⟨_, _, _, rfl⟩
      · cases allowed
      · cases allowed

namespace World

variable {world before after : World} {task : TaskId} {name : EntryId} {entry : PullEntry}

/-- The release that a line tells of, if a hand-back of the entry has called for it. -/
def releaseOf? (world : World) (name : EntryId) : Mark → Option Call
  | .called task call =>
    if call.isRelease ∧ (world.tasks.get? task).bind Task.entryOf? = some name then some call
    else none
  | _ => none

/-- The releases that hand-backs of an entry call for during an event. -/
def releasesIn (world : World) (name : EntryId) (event : Event) : List Call :=
  (Account.ofEffects ((world.step event).1.since world)).filterMap (world.releaseOf? name)

/-- The releases that hand-backs of an entry call for during a list of events. -/
def releases (name : EntryId) : World → List Event → List Call
  | _, [] => []
  | world, event :: rest => world.releasesIn name event ++ releases name (world.step event).1 rest

/-- The hand-back of an entry that an event begins, with the task that runs it. -/
def begunIn (world : World) (name : EntryId) : Event → List (TaskId × HandBack)
  | .proceed task _ =>
    match world.tasks.get? task with
    | some (.handBack entry kind .begun) =>
      if entry = name ∧ (world.entries.get? name).isSome then [(task, kind)] else []
    | _ => []
  | _ => []

/-- The hand-backs of an entry that begin during a list of events, in order. -/
def handBacks (name : EntryId) : World → List Event → List (TaskId × HandBack)
  | _, [] => []
  | world, event :: rest => world.begunIn name event ++ handBacks name (world.step event).1 rest

/-- Whether a task has run to its end and was not cancelled before. -/
def Completed (world : World) (task : TaskId) : Prop :=
  ∃ result, world.results.get? task = some result ∧ result ≠ .cancelled

/-- Whether a task runs the first teardown, or a hand-back because the entry goes offline. -/
def Leads (begun : List (TaskId × HandBack)) (task : TaskId) : Prop :=
  (task, .offline) ∈ begun ∨ begun.find? (·.2 = .destroy) = some (task, .destroy)

/-! ### The invariant -/

/-- A task that has to bring about the release: the lock is released, or the task is still flushing,
or it was cancelled. -/
def MustRelease (world : World) (name : EntryId) (entry : PullEntry) (task : TaskId) : Prop :=
  entry.lockReleased = true ∨
    (∃ kind drain, world.tasks.get? task = some (.handBack name kind (.draining drain))) ∨
    world.tasks.get? task = none ∧ ¬ world.Completed task

/-- How far the hand-back of an entry has come, given the hand-backs begun and the releases made. -/
structure Handing (world : World) (name : EntryId) (entry : PullEntry)
    (begun : List (TaskId × HandBack)) (released : List Call) : Prop where
  released : released = if entry.lockReleased then [entry.release] else []
  queue : entry.queue = none ↔ entry.assignment.isPlaceholder = true
  idle : entry.queue = none → entry.lockReleased = false
  destroyed : entry.destroyed = (begun.find? (·.2 = .destroy)).isSome
  used : ∀ task kind, (task, kind) ∈ begun → task < world.nextTask
  leads : entry.queue ≠ none → ∀ task, Leads begun task → world.MustRelease name entry task

/-- The agreement of a client with the hand-backs begun and the releases made for an entry. -/
structure Handover (world : World) (name : EntryId) (begun : List (TaskId × HandBack))
    (released : List Call) : Prop where
  unused : world.nextEntry ≤ name → world.entries.get? name = none
  absent : world.entries.get? name = none → begun = [] ∧ released = []
  serves : ∀ task own, world.tasks.get? task = some own → own.handsBack = true →
    own.entryOf? = some name → ∃ entry, world.entries.get? name = some entry ∧ entry.queue ≠ none
  present : ∀ entry, world.entries.get? name = some entry →
    world.Handing name entry begun released

variable {begun : List (TaskId × HandBack)} {released : List Call} {actor : Option TaskId}

/-- A hand-back that brings the release about has begun. -/
theorem leads_mem (leads : Leads begun task) : ∃ kind, (task, kind) ∈ begun := by
  rcases leads with offline | first
  · exact ⟨.offline, offline⟩
  · exact ⟨.destroy, List.mem_of_find?_eq_some first⟩

/-- What a task must is not changed by the doings of others. -/
theorem MustRelease.kept (must : before.MustRelease name entry task)
    (done : DoneBy actor before after)
    (used : task < before.nextTask)
    (own : actor = some task → ∀ kind drain,
      before.tasks.get? task = some (.handBack name kind (.draining drain)) →
        after.MustRelease name entry task) : after.MustRelease name entry task := by
  rcases must with released | ⟨kind, drain, drains⟩ | ⟨gone, cancelled⟩
  · exact .inl released
  · by_cases acts : actor = some task
    · exact own acts kind drain drains
    · rcases done.others task _ drains acts with same | ⟨_, schedule⟩
      · exact .inr (.inl ⟨kind, drain, same⟩)
      · cases schedule
  · obtain ⟨ended, results⟩ := done.ended task used gone
    refine .inr (.inr ⟨ended, ?_⟩)
    rintro ⟨result, found, completed⟩
    rcases results with same | none
    · exact cancelled ⟨result, same.symm.trans found, completed⟩
    · exact Option.some_ne_none result (found.symm.trans none)

/-- A change that concerns the entry in nothing. -/
theorem Handover.kept (handover : before.Handover name begun released)
    (done : DoneBy actor before after)
    (entries : after.entries.get? name = before.entries.get? name)
    (nextEntry : before.nextEntry ≤ after.nextEntry)
    (handBacks : ∀ task own, after.tasks.get? task = some own → own.handsBack = true →
      own.entryOf? = some name → before.tasks.get? task = some own)
    (own : ∀ task entry, actor = some task → ∀ kind drain,
      before.tasks.get? task = some (.handBack name kind (.draining drain)) →
        after.MustRelease name entry task) : after.Handover name begun released where
  unused high := by
    rw [entries]
    exact handover.unused (Nat.le_trans nextEntry high)
  absent gone := by
    rw [entries] at gone
    exact handover.absent gone
  serves task other there begun about := by
    rw [entries]
    exact handover.serves task other (handBacks task other there begun about) begun about
  present entry here := by
    rw [entries] at here
    have handing := handover.present entry here
    refine ⟨handing.released, handing.queue, handing.idle, handing.destroyed,
      fun task kind member => ?_, fun queue task leads => ?_⟩
    · exact Nat.lt_of_lt_of_le (handing.used task kind member) done.nextTask
    · obtain ⟨kind, member⟩ := leads_mem leads
      exact (handing.leads queue task leads).kept done (handing.used task kind member)
        (own task entry)

/-! ### Events that leave the entries alone -/

/-- Only a hand-back that goes on from its flush releases a lock. -/
theorem MayCall.handsBack {event : Event} {call : Call} (may : world.MayCall event task call)
    (releases : call.isRelease = true) : ∃ draw target kind drain, event = .proceed task draw ∧
      world.tasks.get? task = some (.handBack target kind (.draining drain)) := by
  cases event with
  | proceed actor draw =>
      obtain ⟨rfl, own, here, allowed⟩ := may
      obtain ⟨target, kind, drain, rfl⟩ := Task.handsBack_of_mayCall allowed releases
      exact ⟨draw, target, kind, drain, rfl, here⟩
  | answer =>
      obtain ⟨_, _, transmits⟩ := may
      cases call with
      | sendAck | sendBack | pull | refresh => cases releases
      | release => cases transmits
  | _ => exact may.elim

/-- No lock is released by an event that lets no hand-back go on from its flush. -/
theorem Proper.releasesIn_eq_nil (proper : world.Proper) {event : Event}
    (other : ∀ task draw target kind drain, event = .proceed task draw →
      world.tasks.get? task ≠ some (.handBack target kind (.draining drain)))
    (name : EntryId) : world.releasesIn name event = [] := by
  obtain ⟨account, tells, allowed⟩ := step_calls proper event
  rw [releasesIn, tells.ofEffects_since]
  refine List.filterMap_eq_nil_iff.mpr fun mark member => ?_
  cases mark with
  | offered | answered => rfl
  | called task call =>
      refine if_neg fun both => ?_
      obtain ⟨draw, target, kind, drain, goes, own⟩ := (allowed task call member).handsBack both.1
      exact other task draw target kind drain goes own

/-- An event that changes nothing makes no release. -/
theorem releasesIn_of_still {event : Event} (same : (world.step event).1 = world)
    (name : EntryId) : world.releasesIn name event = [] := by
  rw [releasesIn, same, (Tells.of_eq rfl).ofEffects_since]
  rfl

/-- No hand-back begins by an event that leaves the entries alone. -/
theorem begunIn_of_leavesEntries {event : Event} (aside : world.LeavesEntries event)
    (name : EntryId) :
    world.begunIn name event = [] := by
  cases event with
  | proceed task draw =>
      simp only [begunIn]
      split
      · rename_i own
        exact absurd own (aside _ _ _)
      · rfl
  | _ => rfl

/-- A hand-back that is flushing goes on flushing or is cancelled, unless it is let go on. -/
theorem mustRelease_of_leavesEntries {event : Event} (aside : world.LeavesEntries event)
    (acts : event.actor? = some task) {kind : HandBack} {drain : TaskId}
    (drains : world.tasks.get? task = some (.handBack name kind (.draining drain))) :
    (world.step event).1.MustRelease name entry task := by
  have waits : (world.step event).1 = world → (world.step event).1.MustRelease name entry task := by
    intro same
    rw [same]
    exact .inr (.inl ⟨kind, drain, drains⟩)
  cases event with
  | proceed other draw =>
      cases acts
      exact absurd drains (aside _ _ _)
  | answer other answer =>
      cases acts
      exact waits (by simp only [step, World.answer, drains])
  | respond other answer =>
      cases acts
      exact waits (by simp only [step, respond, drains])
  | expire other =>
      cases acts
      exact waits (by simp only [step, expire, due?, drains, Option.all_none, if_true])
  | abort other =>
      cases acts
      obtain ⟨gone, cancelled⟩ := get?_finish world task .cancelled
      simp only [step, abort, drains]
      refine .inr (.inr ⟨gone, ?_⟩)
      rintro ⟨result, found, completed⟩
      exact completed (Option.some.inj (cancelled.symm.trans found)).symm
  | _ => cases acts

/-- An event that leaves the entries alone neither begins a hand-back nor makes a release. -/
theorem Handover.aside (handover : world.Handover name begun released) (proper : world.Proper)
    {event : Event} (aside : world.LeavesEntries event) :
    (world.step event).1.Handover name (begun ++ world.begunIn name event)
      (released ++ world.releasesIn name event) := by
  have keepsEntries := proper.keepsEntries aside
  have silent : world.releasesIn name event = [] := by
    refine proper.releasesIn_eq_nil (fun task draw target kind drain goes => ?_) name
    subst goes
    exact aside _ _ _
  rw [begunIn_of_leavesEntries aside, silent, List.append_nil, List.append_nil]
  exact handover.kept (proper.doneBy event) (by rw [keepsEntries.entries])
    (Nat.le_of_eq keepsEntries.nextEntry.symm) (fun task own there begun _ =>
      keepsEntries.handBacks task own there begun)
    fun task entry acts kind drain drains => mustRelease_of_leavesEntries aside acts drains

/-! ### New entries -/

/-- A new entry has not been handed back, and the others are not concerned. -/
theorem Handover.lists {assignment : Assignment} {consume : ConsumeParam}
    (handover : before.Handover name begun released)
    (lists : Lists before assignment consume entry after) :
    after.Handover name begun released := by
  have earlier : ∀ task own, after.tasks.get? task = some own → own.handsBack = true →
      before.tasks.get? task = some own :=
    fun task own there begun => lists.done.handBack nofun there begun
  by_cases fresh : before.nextEntry = name
  · have unlisted := handover.unused (Nat.le_of_eq fresh)
    obtain ⟨rfl, rfl⟩ := handover.absent unlisted
    refine ⟨fun high => ?_, fun _ => ⟨rfl, rfl⟩, fun task own there begun about => ?_,
      fun listed here => ?_⟩
    · rw [lists.nextEntry, fresh] at high
      exact absurd high (Nat.not_succ_le_self name)
    · obtain ⟨served, here, _⟩ :=
        handover.serves task own (earlier task own there begun) begun about
      exact absurd (here.symm.trans unlisted) (Option.some_ne_none served)
    · rw [lists.entries, if_pos fresh] at here
      cases here
      refine ⟨?_, lists.queue, fun _ => lists.fresh.2, lists.fresh.1,
        fun _ _ member => absurd member List.not_mem_nil,
        fun _ task leads => absurd (leads_mem leads).choose_spec List.not_mem_nil⟩
      rw [lists.fresh.2]
      rfl
  · refine handover.kept lists.done ?_ ?_ (fun task own there begun _ =>
      earlier task own there begun)
      fun _ _ acts => absurd acts.symm (Option.some_ne_none _)
    · rw [lists.entries, if_neg fresh]
    · rw [lists.nextEntry]
      exact Nat.le_succ _

/-! ### The beginning of a hand-back -/

/-- The leaders of the hand-backs after one more has begun. -/
theorem leads_append {kind : HandBack} {other : TaskId}
    (leads : Leads (begun ++ [(task, kind)]) other) :
    Leads begun other ∨
      other = task ∧ (kind = .destroy → (begun.find? (·.2 = .destroy)).isSome = false) := by
  rcases leads with offline | first
  · rcases List.mem_append.mp offline with before | now
    · exact .inl (.inl before)
    · cases List.mem_singleton.mp now
      exact .inr ⟨rfl, nofun⟩
  · rw [List.find?_append] at first
    cases earlier : begun.find? (·.2 = .destroy) with
    | some call =>
        rw [earlier] at first
        cases first
        exact .inl (.inr earlier)
    | none =>
        rw [earlier, Option.none_or] at first
        cases List.mem_singleton.mp (List.mem_of_find?_eq_some first)
        exact .inr ⟨rfl, fun _ => rfl⟩

/-- A hand-back that begins has to bring the release about if it is the first teardown, or if the
entry goes offline. -/
theorem Handing.begins {kind : HandBack} (handing : before.Handing name entry begun released)
    (used : task < before.nextTask)
    (own : before.tasks.get? task = some (.handBack name kind .begun))
    (begins : Begins before task name kind entry after) :
    after.Handing name { entry with destroyed := entry.destroyed || kind = .destroy }
      (begun ++ [(task, kind)]) released where
  released := handing.released
  queue := handing.queue
  idle := handing.idle
  destroyed := by
    rw [handing.destroyed, List.find?_append, Option.isSome_or]
    cases kind <;> rfl
  used other otherKind member := by
    refine Nat.lt_of_lt_of_le ?_ begins.done.nextTask
    rcases List.mem_append.mp member with earlier | now
    · exact handing.used other otherKind earlier
    · cases List.mem_singleton.mp now
      exact used
  leads queue other leads := by
    rcases leads_append leads with earlier | ⟨rfl, first⟩
    · obtain ⟨_, member⟩ := leads_mem earlier
      have must : after.MustRelease name entry other :=
        (handing.leads queue other earlier).kept begins.done (handing.used other _ member)
          fun acts otherKind drain drains => by
            cases acts
            exact nomatch own.symm.trans drains
      exact must
    · rcases begins.own with ⟨_, late | nothing⟩ | ⟨_, drain, drains⟩
      · have unmarked := first late.1
        rw [← handing.destroyed, late.2] at unmarked
        exact nomatch unmarked
      · exact absurd nothing queue
      · exact .inr (.inl ⟨kind, drain, drains⟩)

/-- A hand-back of another entry concerns this one in nothing. -/
theorem Handover.begins {target : EntryId} {kind : HandBack}
    (handover : before.Handover name begun released) (used : task < before.nextTask)
    (own : before.tasks.get? task = some (.handBack target kind .begun))
    (present : before.entries.get? target = some entry)
    (begins : Begins before task target kind entry after) :
    after.Handover name (begun ++ if target = name then [(task, kind)] else []) released := by
  have before_of_after : ∀ other own, target ≠ name ∨ other ≠ task →
      after.tasks.get? other = some own → own.handsBack = true → own.entryOf? = some name →
      before.tasks.get? other = some own := by
    intro other current apart there handsBack about
    by_cases same : other = task
    · subst same
      rcases begins.own with ⟨gone, _⟩ | ⟨_, drain, drains⟩
      · exact absurd (there.symm.trans gone) (Option.some_ne_none current)
      · cases there.symm.trans drains
        exact absurd (Option.some.inj about) (apart.resolve_right fun differs => differs rfl)
    · exact begins.done.handBack (fun acts => same (Option.some.inj acts).symm) there handsBack
  by_cases here : target = name
  · subst here
    rw [if_pos rfl]
    have placed : after.entries.get? target =
        some { entry with destroyed := entry.destroyed || kind = .destroy } := by
      rw [begins.entries, if_pos rfl]
    refine ⟨fun high => ?_, fun gone => ?_, fun other current there handsBack about => ?_,
      fun next there => ?_⟩
    · rw [begins.nextEntry] at high
      exact absurd (present.symm.trans (handover.unused high)) (Option.some_ne_none entry)
    · exact absurd (placed.symm.trans gone) (Option.some_ne_none _)
    · refine ⟨_, placed, ?_⟩
      by_cases same : other = task
      · subst same
        rcases begins.own with ⟨gone, _⟩ | ⟨queue, _⟩
        · exact absurd (there.symm.trans gone) (Option.some_ne_none current)
        · exact queue
      · obtain ⟨served, found, queue⟩ := handover.serves other current
          (before_of_after other current (.inr same) there handsBack about) handsBack about
        rw [← Option.some.inj (present.symm.trans found)] at queue
        exact queue
    · rw [← Option.some.inj (placed.symm.trans there)]
      exact (handover.present entry present).begins used own begins
  · rw [if_neg here, List.append_nil]
    refine handover.kept begins.done ?_ (Nat.le_of_eq begins.nextEntry.symm)
      (fun other current => before_of_after other current (.inl here)) ?_
    · rw [begins.entries, if_neg here]
    · intro other entry acts otherKind drain drains
      cases acts
      exact nomatch own.symm.trans drains

/-! ### The release -/

/-- A hand-back that concludes has released the lock. -/
theorem Handing.concludes {kind : HandBack}
    (handing : before.Handing name entry begun released) (queue : entry.queue ≠ none)
    (concludes : Concludes before task name kind entry after) :
    after.Handing name { entry with lockReleased := true } begun
      (released ++ if entry.lockReleased then [] else [entry.release]) where
  released := by
    rw [handing.released]
    cases entry.lockReleased <;> rfl
  queue := handing.queue
  idle nothing := absurd nothing queue
  destroyed := handing.destroyed
  used other kind member :=
    Nat.lt_of_lt_of_le (handing.used other kind member) concludes.done.nextTask
  leads _ _ _ := .inl rfl

/-- The end of the flush for one entry concerns no other. -/
theorem Handover.concludes {target : EntryId} {kind : HandBack} {drain : TaskId}
    (handover : before.Handover name begun released)
    (own : before.tasks.get? task = some (.handBack target kind (.draining drain)))
    (present : before.entries.get? target = some entry)
    (concludes : Concludes before task target kind entry after) :
    after.Handover name begun (released ++
      if target = name then if entry.lockReleased then [] else [entry.release] else []) := by
  have before_of_after : ∀ other own, target ≠ name ∨ other ≠ task →
      after.tasks.get? other = some own → own.handsBack = true → own.entryOf? = some name →
      before.tasks.get? other = some own := by
    intro other current apart there handsBack about
    by_cases same : other = task
    · subst same
      cases concludes.own current there
      exact absurd (Option.some.inj about) (apart.resolve_right fun differs => differs rfl)
    · exact concludes.done.handBack (fun acts => same (Option.some.inj acts).symm) there handsBack
  by_cases here : target = name
  · subst here
    rw [if_pos rfl]
    have placed : after.entries.get? target = some { entry with lockReleased := true } := by
      rw [concludes.entries, if_pos rfl]
    have queue : entry.queue ≠ none := by
      obtain ⟨served, found, queue⟩ := handover.serves task _ own rfl rfl
      rw [← Option.some.inj (present.symm.trans found)] at queue
      exact queue
    refine ⟨fun high => ?_, fun gone => ?_, fun other current there handsBack about => ?_,
      fun next there => ?_⟩
    · rw [concludes.nextEntry] at high
      exact absurd (present.symm.trans (handover.unused high)) (Option.some_ne_none entry)
    · exact absurd (placed.symm.trans gone) (Option.some_ne_none _)
    · exact ⟨_, placed, queue⟩
    · rw [← Option.some.inj (placed.symm.trans there)]
      exact (handover.present entry present).concludes queue concludes
  · rw [if_neg here, List.append_nil]
    refine handover.kept concludes.done ?_ (Nat.le_of_eq concludes.nextEntry.symm)
      (fun other current => before_of_after other current (.inl here)) ?_
    · rw [concludes.entries, if_neg here]
    · intro other entry acts otherKind otherDrain drains
      cases acts
      cases own.symm.trans drains
      exact absurd rfl here

/-! ### Steps and runs -/

/-- The lines about an entry when the flush of a hand-back has ended. -/
theorem releasesIn_of_concludes {target : EntryId} {kind : HandBack} {stage : HandBackStage}
    {event : Event} (own : world.tasks.get? task = some (.handBack target kind stage))
    (concludes : Concludes world task target kind entry (world.step event).1) (name : EntryId) :
    world.releasesIn name event =
      if target = name then if entry.lockReleased then [] else [entry.release] else [] := by
  have line : world.releaseOf? name (.called task entry.release) =
      if target = name then some entry.release else none := by
    have releases : entry.release.isRelease = true := rfl
    simp only [releaseOf?, releases, own, Option.bind_some, Task.entryOf?, Option.some.injEq,
      true_and]
  rw [releasesIn, concludes.tells.ofEffects_since]
  cases entry.lockReleased with
  | true => rw [if_pos rfl, if_pos rfl, ite_self, List.filterMap_nil]
  | false =>
      rw [if_neg Bool.false_ne_true, if_neg Bool.false_ne_true, List.filterMap_cons, line]
      by_cases here : target = name
      · rw [if_pos here, if_pos here]
        rfl
      · rw [if_neg here, if_neg here]
        rfl

/-- **Hand-backs, step by step.** Every step keeps the agreement with the hand-backs begun and the
releases made. -/
theorem Handover.step (handover : world.Handover name begun released) (proper : world.Proper)
    (event : Event) :
    (world.step event).1.Handover name (begun ++ world.begunIn name event)
      (released ++ world.releasesIn name event) := by
  have handles := proper.handles event
  generalize reached : (world.step event).1 = after at handles
  cases handles with
  | aside aside =>
      rw [← reached]
      exact handover.aside proper aside
  | lists assignment consume lists =>
      have silent : world.releasesIn name (.openEntry assignment consume) = [] :=
        proper.releasesIn_eq_nil (fun _ _ _ _ _ goes => by cases goes) name
      have nothing : world.begunIn name (.openEntry assignment consume) = [] := rfl
      rw [nothing, silent, List.append_nil, List.append_nil]
      exact handover.lists lists
  | @waits task draw target kind stage own unbegun =>
      have nothing : world.begunIn name (.proceed task draw) = [] := by
        cases stage with
        | begun =>
            simp only [begunIn, own]
            refine if_neg ?_
            rintro ⟨rfl, listed⟩
            rw [unbegun rfl] at listed
            exact nomatch listed
        | draining | releasing => simp only [begunIn, own]
      rw [nothing, releasesIn_of_still reached, List.append_nil, List.append_nil]
      exact handover
  | @begins task draw target kind entry after own present begins =>
      have noted : world.begunIn name (.proceed task draw) =
          if target = name then [(task, kind)] else [] := by
        simp only [begunIn, own]
        by_cases here : target = name
        · have listed : (world.entries.get? name).isSome = true := by
            rw [← here, present]
            rfl
          rw [if_pos ⟨here, listed⟩, if_pos here]
        · rw [if_neg fun both => here both.1, if_neg here]
      have silent : world.releasesIn name (.proceed task draw) = [] := by
        refine proper.releasesIn_eq_nil (fun other _ _ _ _ goes drains => ?_) name
        cases goes
        cases own.symm.trans drains
      rw [noted, silent, List.append_nil]
      exact handover.begins (proper.numbered.lt_nextTask own) own present begins
  | @concludes task draw target kind drain entry after own present concludes =>
      have nothing : world.begunIn name (.proceed task draw) = [] := by
        simp only [begunIn, own]
      rw [nothing, releasesIn_of_concludes own (by rw [reached]; exact concludes),
        List.append_nil]
      exact handover.concludes own present concludes

/-- The agreement on hand-backs and releases outlasts a run. -/
theorem Handover.run (handover : world.Handover name begun released) (proper : world.Proper)
    (events : List Event) :
    (world.run events).Handover name (begun ++ handBacks name world events)
      (released ++ releases name world events) := by
  induction events generalizing world begun released with
  | nil =>
      rw [handBacks, releases, List.append_nil, List.append_nil]
      exact handover
  | cons event rest ih =>
      rw [handBacks, releases, ← List.append_assoc, ← List.append_assoc]
      exact ih (handover.step proper event) (proper.step event)

/-- A new client has handed nothing back. -/
theorem handover_initial (epoch : Nat) (settings : Settings) (name : EntryId) :
    (initial epoch settings).Handover name [] [] where
  unused _ := rfl
  absent _ := ⟨rfl, rfl⟩
  serves _ own here _ _ := absurd here.symm (Option.some_ne_none own)
  present entry here := absurd here.symm (Option.some_ne_none entry)

/-! ### Who releases -/

/-- The releases of a run are those of its entries. -/
theorem Proper.releases (proper : world.Proper) (events : List Event) :
    ∃ told, world.Tells told (world.run events) ∧ ∀ task call, Mark.called task call ∈ told →
      call.isRelease = true → ∃ name, call ∈ World.releases name world events := by
  refine proper.placed (fun world events task call => call.isRelease = true →
    ∃ name, call ∈ World.releases name world events) ?_ ?_ events
  · intro world event rest task call may member releases
    obtain ⟨draw, name, kind, drain, _, own⟩ := may.handsBack releases
    refine ⟨name, List.mem_append_left _ ?_⟩
    refine List.mem_filterMap.mpr ⟨_, member, if_pos ⟨releases, ?_⟩⟩
    rw [own]
    rfl
  · intro world event rest task call placed releases
    obtain ⟨name, found⟩ := placed releases
    exact ⟨name, List.mem_append_right _ found⟩

/-! ### Locks -/

/-- An entry goes offline while it is torn down, and the broker refuses the release. -/
def handedBackTwice : List Event :=
  [.openEntry (.ofNames "s" "g" "p" "b" "c" .shared) (.ofNames "s" "g" "c"),
    .begin (.handBack 0 .offline), .begin (.handBack 0 .destroy), .proceed 1 0, .proceed 2 0,
    .proceed 3 0, .proceed 3 0, .proceed 3 0, .proceed 4 0, .proceed 4 0, .proceed 4 0,
    .proceed 2 0, .proceed 1 0, .answer 2 (.failed (.lockRelease "refused"))]

variable (epoch : Nat) (settings : Settings) (events : List Event)

/-- **Locks are released once.** After every run, the lock of an entry was released once at most,
under the names and the strategy of its assignment, and never that of a placeholder. It was released
if the first teardown or any offline hand-back has run to its end. No other call releases a lock. -/
theorem run_released
    (present : ((initial epoch settings).run events).entries.get? name = some entry) :
    (releases name (initial epoch settings) events = [] ∨
      releases name (initial epoch settings) events = [entry.release]) ∧
    (entry.assignment.isPlaceholder = true →
      releases name (initial epoch settings) events = []) ∧
    (entry.assignment.isPlaceholder = false → ∀ task,
      Leads (handBacks name (initial epoch settings) events) task →
      ((initial epoch settings).run events).Completed task →
      releases name (initial epoch settings) events = [entry.release]) ∧
    ∀ task call, Effect.called task call ∈ ((initial epoch settings).run events).history →
      call.isRelease = true → ∃ other, call ∈ releases other (initial epoch settings) events := by
  have proper := proper_initial epoch settings
  have handing := ((handover_initial epoch settings name).run proper events).present entry present
  rw [List.nil_append, List.nil_append] at handing
  refine ⟨?_, fun placeholder => ?_, fun regular task leads completed => ?_,
    fun task call called isRelease => ?_⟩
  · rw [handing.released]
    cases entry.lockReleased with
    | true => exact .inr rfl
    | false => exact .inl rfl
  · rw [handing.released, handing.idle (handing.queue.mpr placeholder)]
    rfl
  · have queue : entry.queue ≠ none := fun none =>
      Bool.false_ne_true (regular.symm.trans (handing.queue.mp none))
    rcases handing.leads queue task leads with lock | ⟨kind, drain, drains⟩ | ⟨_, cancelled⟩
    · rw [handing.released, if_pos lock]
    · -- A task that has ended is not flushing any more.
      obtain ⟨result, found, _⟩ := completed
      have gone := (run_filed epoch settings events task result found).2
      exact absurd (drains.symm.trans gone) (Option.some_ne_none _)
    · exact absurd completed cancelled
  · obtain ⟨told, tells, placed⟩ := proper.releases events
    exact placed task call (tells.called rfl called) isRelease

/-- The two hand-backs release the lock once between them. -/
theorem run_released_handedBackTwice :
    handBacks 0 (initial 0 .standard) handedBackTwice = [(1, .offline), (2, .destroy)] ∧
      releases 0 (initial 0 .standard) handedBackTwice = [.release "s" "g" "p" "b" .shared] := by
  obtain ⟨entry, present, assignment⟩ : ∃ entry,
      ((initial 0 .standard).run handedBackTwice).entries.get? 0 = some entry ∧
        entry.assignment = .ofNames "s" "g" "p" "b" "c" .shared := ⟨_, rfl, rfl⟩
  have begun : handBacks 0 (initial 0 .standard) handedBackTwice =
      [(1, .offline), (2, .destroy)] := rfl
  have regular : entry.assignment.isPlaceholder = false := by
    rw [assignment]
    rfl
  have leads : Leads (handBacks 0 (initial 0 .standard) handedBackTwice) 2 :=
    .inr (by rw [begun]; rfl)
  have completed : ((initial 0 .standard).run handedBackTwice).Completed 2 := ⟨.done, rfl, nofun⟩
  obtain ⟨_, _, released, _⟩ := run_released 0 .standard handedBackTwice present
  refine ⟨begun, ?_⟩
  rw [released regular 2 leads completed, PullEntry.release, assignment]
  rfl

end World

end PullConsumer
