import PullConsumer.Proofs.Client.Pulls
import PullConsumer.Proofs.Queue.Coverage
import PullConsumer.Proofs.Settings.Live
import PullConsumer.Settings.Source

/-! # What a pull request says

A request is made anew for every cycle. It tells how far the acknowledgments and the registrations
of its entry have come by then, and it has the timeout that the settings applied last give to the
subject, however long before the entry was made (`World.run_requested`).
-/

namespace PullConsumer

/-- What happens to a client that reads its settings from files. -/
inductive Happening
  | occurs (event : Event)
  /-- Settings are read anew, and applied if they can be read. -/
  | reload (source : Settings.Source)

/-- The settings that are current after an event. -/
def Event.settings (current : Settings) : Event → Settings
  | .applySettings next => next
  | _ => current

namespace Happening

/-- The events that a happening comes to. -/
def events : Happening → List Event
  | .occurs event => [event]
  | .reload source =>
    match Settings.load source with
    | .ok next => [.applySettings next]
    | .error _ => []

/-- The settings that are current after a happening. -/
def settings (current : Settings) : Happening → Settings
  | .occurs event => event.settings current
  | .reload source =>
    match Settings.load source with
    | .ok next => next
    | .error _ => current

/-- What is current after a happening is what its events make current. -/
theorem settings_eq (current : Settings) (happening : Happening) :
    happening.settings current = happening.events.foldl Event.settings current := by
  cases happening with
  | occurs event => rfl
  | reload source =>
      simp only [settings, events]
      cases Settings.load source with
      | ok | error => rfl

/-- What is current after some happenings is what all their events make current. -/
theorem foldl_flatMap_settings (current : Settings) (happenings : List Happening) :
    (happenings.flatMap events).foldl Event.settings current =
      happenings.foldl Happening.settings current := by
  rw [List.foldl_flatMap]
  congr 1
  funext current happening
  exact (settings_eq current happening).symm

end Happening

namespace World

variable {world : World} {name : EntryId} {entry : PullEntry}

/-! ### Settings and timeouts along a run -/

/-- An event changes the current settings only by applying new ones. -/
theorem step_current (world : World) (event : Event) :
    (world.step event).1.live.current = event.settings world.live.current := by
  have shared := world.step_surroundings event
  change (world.step event).1.surroundings.live.current = _
  cases event with
  | applySettings settings =>
      simp only [step, applySettings, surroundings_emitAll]
      rfl
  | openEntry assignment consume =>
      have made := world.surroundings_openEntry assignment consume
      simp only [step, made]
      exact LiveSettings.current_handOut world.live assignment.subject
  | _ =>
      generalize (World.step world _).1.surroundings = after at shared
      cases shared <;> rfl

/-- The current settings after a run are those that were applied last. -/
theorem run_current (world : World) (events : List Event) :
    (world.run events).live.current = events.foldl Event.settings world.live.current := by
  induction events generalizing world with
  | nil => rfl
  | cons event rest ih =>
      have later := ih (world.step event).1
      rw [step_current] at later
      exact later

/-- A step of the surroundings keeps every timeout that of the current settings. -/
theorem SurroundingsStep.coherent {shared next : Surroundings} {event : Event}
    (step : SurroundingsStep shared event next) (coherent : shared.live.Coherent) :
    next.live.Coherent := by
  cases step with
  | applies settings => exact LiveSettings.coherent_apply shared.live settings
  | handsOut assignment => exact coherent.handOut assignment.subject
  | ignores | elapses | looksUp | fails | rejects | sets | announces | removes => exact coherent

/-- A run keeps every timeout that of the current settings. -/
theorem run_coherent (coherent : world.live.Coherent) (events : List Event) :
    (world.run events).live.Coherent := by
  induction events generalizing world with
  | nil => exact coherent
  | cons event rest ih => exact ih ((world.step_surroundings event).coherent coherent)

/-- Whether a timeout was handed out for the subject of every entry. -/
def Supplied (world : World) : Prop :=
  ∀ name entry, world.entries.get? name = some entry →
    ∃ cell, world.live.timeout? entry.assignment.subject = some cell

/-- A subject that was handed a timeout has one after every step of the surroundings. -/
theorem SurroundingsStep.supplies {shared next : Surroundings} {event : Event}
    (step : SurroundingsStep shared event next) {subject : String} {cell : Versioned Nat}
    (handed : shared.live.timeout? subject = some cell) :
    ∃ cell, next.live.timeout? subject = some cell := by
  cases step with
  | applies settings =>
      refine ⟨LiveSettings.refreshed settings subject cell, ?_⟩
      rw [LiveSettings.timeout?_apply, handed, Option.map_some]
  | handsOut assignment =>
      exact ⟨cell, LiveSettings.handOut_keeps handed assignment.subject⟩
  | ignores | elapses | looksUp | fails | rejects | sets | announces | removes =>
      exact ⟨cell, handed⟩

/-- An event leaves every subject of an entry with a timeout. -/
theorem Supplied.step (supplied : world.Supplied) (proper : world.Proper) (event : Event) :
    (world.step event).1.Supplied := by
  intro name entry present
  rcases proper.listed present with ⟨earlier, there, endures⟩ | ⟨_, consume, rfl⟩
  · obtain ⟨cell, handed⟩ := supplied name earlier there
    rw [endures.assignment]
    exact (world.step_surroundings event).supplies handed
  · have live := congrArg Surroundings.live (world.surroundings_openEntry entry.assignment consume)
    have handed : (world.step (.openEntry entry.assignment consume)).1.live =
        world.live.handOut entry.assignment.subject := live
    rw [handed, LiveSettings.timeout?_handOut, if_pos rfl]
    exact ⟨_, rfl⟩

/-- A run leaves every subject of an entry with a timeout. -/
theorem Supplied.run (supplied : world.Supplied) (proper : world.Proper) (events : List Event) :
    (world.run events).Supplied := by
  induction events generalizing world with
  | nil => exact supplied
  | cons event rest ih => exact ih (supplied.step proper event) (proper.step event)

/-- An entry reads the timeout that was handed out for its subject, and it is the current one. -/
theorem Supplied.timeoutOf (supplied : world.Supplied) (coherent : world.live.Coherent)
    (present : world.entries.get? name = some entry) :
    (∃ cell, world.live.timeout? entry.assignment.subject = some cell ∧
      world.timeoutOf entry.assignment.subject = cell.value) ∧
    world.timeoutOf entry.assignment.subject =
      world.live.current.timeoutOf entry.assignment.subject := by
  obtain ⟨cell, handed⟩ := supplied name entry present
  have reads : world.timeoutOf entry.assignment.subject = cell.value := by
    rw [World.timeoutOf, handed]
  exact ⟨⟨cell, handed, reads⟩, reads.trans (coherent _ cell handed)⟩

/-! ### Windows -/

variable {epoch : Nat} {settings : Settings} {events : List Event}

/-- The window of an entry tells its last accepted acknowledgment and its highest registration. -/
theorem run_windowOf {queue : QueueId} (serves : entry.queue = some queue) :
    (((initial epoch settings).run events).windowOf entry).min =
        ((account queue (initial epoch settings) events).accepted.map AckRequest.last).getLastD
          (-1) ∧
      (((initial epoch settings).run events).windowOf entry).max =
        (account queue (initial epoch settings) events).admitted.foldl max (-1) := by
  simp only [windowOf, serves, Option.bind_some]
  cases here : ((initial epoch settings).run events).queues.get? queue with
  | none =>
      rw [run_account_of_absent epoch settings events here]
      exact ⟨rfl, rfl⟩
  | some found =>
      have recorded := run_recorded epoch settings events here
      obtain ⟨blocks, tiled⟩ := recorded.tiled
      have ordered := recorded.sound.ordered
      refine ⟨tiled.low, ?_⟩
      rw [← recorded.tallied.admitted, Increasing.foldl_max ordered.increasing]
      exact ordered.top

/-- The window of an entry stands right side up. -/
theorem run_windowOf_le : (((initial epoch settings).run events).windowOf entry).min ≤
    (((initial epoch settings).run events).windowOf entry).max := by
  unfold windowOf
  split
  · rename_i found here
    obtain ⟨queue, _, there⟩ := Option.bind_eq_some_iff.mp here
    exact (run_recorded epoch settings events there).sound.ordered.bounded.high
  · exact Int.le_refl _

/-- No end of the window of an entry ever falls. -/
theorem run_windowOf_grows {next : PullEntry} (endures : Endures entry next)
    (later : List Event) :
    (((initial epoch settings).run events).windowOf entry).Grows
      (((initial epoch settings).run (events ++ later)).windowOf next) := by
  unfold windowOf
  rw [endures.queue]
  cases serves : entry.queue with
  | none => exact .refl _
  | some queue =>
      simp only [Option.bind_some]
      cases here : ((initial epoch settings).run events).queues.get? queue with
      | some found =>
          have kept : ∃ after,
              (((initial epoch settings).run events).run later).queues.get? queue = some after ∧
                found.window.Grows after.window :=
            (run_proper epoch settings events).carries
              (fun stride grows => grows.trans stride.window) later here (.refl _)
          obtain ⟨after, there, grows⟩ := kept
          rw [run_append, there]
          exact grows
      | none =>
          cases there : ((initial epoch settings).run (events ++ later)).queues.get? queue with
          | none => exact .refl _
          | some after =>
              have ordered := (run_recorded epoch settings (events ++ later) there).sound.ordered
              exact ⟨ordered.low, Int.le_trans ordered.low ordered.bounded.high⟩

/-! ### Requests -/

/-- A request says where its entry stands in the state in which it is made. -/
structure Reflects (world : World) (entry : PullEntry) (account : Account) (settings : Settings)
    (request : PullRequest) : Prop where
  /-- The last offset of the latest acknowledgment that the broker accepted. -/
  min : request.window.min = (account.accepted.map AckRequest.last).getLastD (-1)
  /-- The highest offset registered. -/
  max : request.window.max = account.admitted.foldl max (-1)
  /-- The timeout is the one that the settings applied last lay down for the subject. -/
  requestTimeout : settings.LaysDown entry.assignment.subject request.requestTimeout
  /-- It is read off the timeout that was handed out for the subject. -/
  cell : ∃ cell, world.live.timeout? entry.assignment.subject = some cell ∧
    request.requestTimeout = cell.value
  partition : request.partition = entry.assignment.partition
  strategy : request.strategy = entry.assignment.strategy
  version : request.version = entry.assignment.version

/-- The requests of one cycle at most are made during an event. -/
theorem run_pullsIn (name : EntryId) (event : Event) :
    ((initial epoch settings).run events).pullsIn name event = [] ∨
      ∃ entry request, ((initial epoch settings).run events).entries.get? name = some entry ∧
        ((initial epoch settings).run events).pullsIn name event = [request] ∧
        request.window = ((initial epoch settings).run events).windowOf entry := by
  cases made : ((initial epoch settings).run events).pullsIn name event with
  | nil => exact .inl rfl
  | cons request rest =>
      have member : request ∈ ((initial epoch settings).run events).pullsIn name event := by
        rw [made]
        exact List.mem_cons_self
      obtain ⟨entry, task, draw, size, timeout, hook, present, _, own, _, pulls, rfl⟩ :=
        run_pulled member
      have single := pulls.pullsIn own name
      rw [made, if_pos rfl] at single
      refine .inr ⟨entry, _, present, single, rfl⟩

/-- Over successive requests of an entry no end of the window ever falls. -/
theorem run_pulls_pairwise (name : EntryId) (events later : List Event) :
    (pulls name ((initial epoch settings).run events) later).Pairwise fun first second =>
      first.window.Grows second.window := by
  induction later generalizing events with
  | nil => exact .nil
  | cons event rest ih =>
      have following := ih (events ++ [event])
      rw [run_append] at following
      rw [pulls, List.pairwise_append]
      rcases run_pullsIn name event with none | ⟨entry, request, present, single, window⟩
      · rw [none]
        exact ⟨.nil, following, fun _ member => absurd member List.not_mem_nil⟩
      · rw [single]
        refine ⟨List.pairwise_singleton _ _, following, fun first here second member => ?_⟩
        cases List.mem_singleton.mp here
        -- The later request has the window that the entry has come to by then.
        obtain ⟨front, current, back, _, made⟩ := mem_pulls member
        have reached : ((((initial epoch settings).run events).step event).1.run front) =
            (initial epoch settings).run (events ++ event :: front) :=
          (run_append (initial epoch settings) events (event :: front)).symm
        rw [reached] at made
        obtain ⟨found, _, _, _, _, _, there, _, _, _, _, rfl⟩ := run_pulled made
        obtain ⟨next, listed, endures⟩ := run_endures present (event :: front)
        cases listed.symm.trans there
        rw [window]
        exact run_windowOf_grows endures (event :: front)

/-- **Requests.** After every run, also one that reads settings anew from files, each request of an
entry has the window that the accepted acknowledgments and the registrations of its queue make up,
the timeout that the settings applied last give to its subject, and the names of its assignment. The
windows of successive requests never fall, and each stands right side up. -/
theorem run_requested (epoch : Nat) (settings : Settings) (happenings : List Happening)
    (present : ((initial epoch settings).run (happenings.flatMap Happening.events)).entries.get?
      name = some entry) :
    (∀ event request,
      request ∈ ((initial epoch settings).run (happenings.flatMap Happening.events)).pullsIn name
        event →
      ∃ queue, entry.queue = some queue ∧
        Reflects ((initial epoch settings).run (happenings.flatMap Happening.events)) entry
          (account queue (initial epoch settings) (happenings.flatMap Happening.events))
          (happenings.foldl Happening.settings settings) request) ∧
    (pulls name (initial epoch settings) (happenings.flatMap Happening.events)).Pairwise
      (fun first second => first.window.Grows second.window) ∧
    ∀ request ∈ pulls name (initial epoch settings) (happenings.flatMap Happening.events),
      request.window.min ≤ request.window.max := by
  have proper := proper_initial epoch settings
  have supplied : (initial epoch settings).Supplied :=
    fun _ entry here => absurd here.symm (Option.some_ne_none entry)
  have coherent : (initial epoch settings).live.Coherent :=
    LiveSettings.coherent_ofSettings settings
  refine ⟨fun event request member => ?_, run_pulls_pairwise name [] _, fun request member => ?_⟩
  · obtain ⟨found, task, draw, size, timeout, hook, there, _, _, gates, _, rfl⟩ := run_pulled member
    cases present.symm.trans there
    obtain ⟨_, queued⟩ := (run_handing present).gates
    have regular := queued.symm.trans (Gate.first?_eq_none.mp gates .placeholder)
    obtain ⟨queue, serves⟩ := Option.isSome_iff_exists.mp
      (Option.isNone_eq_false_iff.mp regular)
    obtain ⟨⟨cell, handed, reads⟩, current⟩ :=
      (supplied.run proper _).timeoutOf (run_coherent coherent _) present
    rw [run_current, Happening.foldl_flatMap_settings] at current
    refine ⟨queue, serves, ?_, ?_, ?_, ⟨cell, handed, reads⟩, rfl, rfl, rfl⟩
    · exact (run_windowOf serves).1
    · exact (run_windowOf serves).2
    · have asked : (((initial epoch settings).run
          (happenings.flatMap Happening.events)).request entry size timeout).requestTimeout =
          (happenings.foldl Happening.settings settings).timeoutOf entry.assignment.subject :=
        current
      rw [asked]
      exact Settings.laysDown_timeoutOf _ _
  · obtain ⟨earlier, event, later, _, made⟩ := mem_pulls member
    obtain ⟨found, _, _, _, _, _, _, _, _, _, _, rfl⟩ := run_pulled made
    exact run_windowOf_le

/-- Settings in which one subject has a timeout of its own. -/
def singledOut : Settings :=
  { Settings.standard with
    pullRequestTimeout := 250
    subjects := .ofList [("s", ⟨some 400⟩)] }

/-- Two entries pull, new settings are applied, a file is missing, and both pull again. -/
def repulled : List Happening :=
  let messages := ["1", "5"].map ((default : Message).setKey .pullOffset ·)
  [.occurs (.openEntry (.ofNames "s" "g" "p" "b" "c" .shared) (.ofNames "s" "g" "c")),
    .occurs (.openEntry (.ofNames "t" "g" "p" "b" "c" .shared) (.ofNames "t" "g" "c")),
    .occurs (.begin (.pull 0 10 100 none)), .occurs (.proceed 2 0),
    .occurs (.respond 2 (.value ⟨.success, ⟨"b", 0⟩, messages⟩)),
    .occurs (.applySettings singledOut), .reload .missing,
    .occurs (.begin (.pull 0 10 100 none)), .occurs (.begin (.pull 1 10 100 none))]

/-- The next request of the first entry asks for what comes after the fifth message, and has the
timeout of its subject. That of the second entry has the common one. -/
theorem run_requested_repulled :
    (∃ request,
      ((initial 0 .standard).run (repulled.flatMap Happening.events)).pullsIn 0 (.proceed 3 0) =
          [request] ∧
        request.window = ⟨-1, 5⟩ ∧ request.requestTimeout = 400) ∧
    ∃ request,
      ((initial 0 .standard).run (repulled.flatMap Happening.events)).pullsIn 1 (.proceed 4 0) =
          [request] ∧
        request.window = ⟨-1, -1⟩ ∧ request.requestTimeout = 250 := by
  have last : repulled.foldl Happening.settings .standard = singledOut := rfl
  have listed : singledOut.subjects.get? "s" = some ⟨some 400⟩ := rfl
  have unlisted : singledOut.subjects.get? "t" = none := rfl
  constructor
  · obtain ⟨entry, present, queue, same⟩ : ∃ entry,
        ((initial 0 .standard).run (repulled.flatMap Happening.events)).entries.get? 0 =
            some entry ∧
          entry.queue = some 0 ∧ entry.assignment = .ofNames "s" "g" "p" "b" "c" .shared :=
      ⟨_, rfl, rfl, rfl⟩
    obtain ⟨request, made⟩ : ∃ request,
        ((initial 0 .standard).run (repulled.flatMap Happening.events)).pullsIn 0 (.proceed 3 0) =
          [request] := ⟨_, rfl⟩
    obtain ⟨reflects, _, _⟩ := run_requested 0 .standard repulled present
    obtain ⟨other, serves, tells⟩ := reflects (.proceed 3 0) request (made ▸ List.mem_cons_self)
    cases queue.symm.trans serves
    have low : request.window.min = -1 := tells.min.trans rfl
    have high : request.window.max = 5 := tells.max.trans rfl
    have timeout := tells.requestTimeout
    rw [last, same] at timeout
    refine ⟨request, made, ?_, ?_⟩
    · calc request.window = ⟨request.window.min, request.window.max⟩ := rfl
        _ = ⟨-1, 5⟩ := by rw [low, high]
    · generalize request.requestTimeout = allowed at timeout
      cases timeout with
      | own found =>
          cases listed.symm.trans found
          rfl
      | common missing => exact absurd listed (missing 400)
  · obtain ⟨entry, present, queue, same⟩ : ∃ entry,
        ((initial 0 .standard).run (repulled.flatMap Happening.events)).entries.get? 1 =
            some entry ∧
          entry.queue = some 1 ∧ entry.assignment = .ofNames "t" "g" "p" "b" "c" .shared :=
      ⟨_, rfl, rfl, rfl⟩
    obtain ⟨request, made⟩ : ∃ request,
        ((initial 0 .standard).run (repulled.flatMap Happening.events)).pullsIn 1 (.proceed 4 0) =
          [request] := ⟨_, rfl⟩
    obtain ⟨reflects, _, _⟩ := run_requested 0 .standard repulled present
    obtain ⟨other, serves, tells⟩ := reflects (.proceed 4 0) request (made ▸ List.mem_cons_self)
    cases queue.symm.trans serves
    have low : request.window.min = -1 := tells.min.trans rfl
    have high : request.window.max = -1 := tells.max.trans rfl
    have timeout := tells.requestTimeout
    rw [last, same] at timeout
    refine ⟨request, made, ?_, ?_⟩
    · calc request.window = ⟨request.window.min, request.window.max⟩ := rfl
        _ = ⟨-1, -1⟩ := by rw [low, high]
    · generalize request.requestTimeout = allowed at timeout
      cases timeout with
      | own found => cases unlisted.symm.trans found
      | common missing => rfl

end World

end PullConsumer
