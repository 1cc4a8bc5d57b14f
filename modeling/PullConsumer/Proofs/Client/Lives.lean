import PullConsumer.Proofs.Client.Signals
import PullConsumer.Proofs.Client.Transmissions
import PullConsumer.Proofs.Queue.Lives

/-! # The lives of entries along a run

The log of an entry over a run (`World.life`) is read off the events and what they report. Along
every run of a client it leads to the state of the entry, so that one call that resolves the entry
takes effect and no other changes anything (`World.run_lives`).
-/

namespace PullConsumer

/-- The entry that an event asks to resolve, with the verdict. An acknowledgment that goes through a
hook asks for nothing: the continuation of the hook is an event of its own. -/
def Event.asks? : Event → Option (QueueId × Int × Verdict)
  | .resolve queue offset verdict => some (queue, offset, verdict)
  | .acknowledge ⟨_, queue, offset, none⟩ => some (queue, offset, .complete)
  | _ => none

/-- Whether a reply says that a verdict took effect. -/
def Reply.isEffective : Reply → Bool
  | .resolved effective => effective
  | _ => false

namespace World

variable {world : World} {name target : QueueId} {queue next : AckQueue} {event : Event}
  {changes : List Change} {offset place : Int} {verdict : Verdict} {log : LifeLog}

/-- The state of an entry, if the queue has one under the offset. -/
def entryState? (world : World) (name : QueueId) (offset : Int) : Option AckState :=
  (world.queues.get? name).bind fun queue => queue.stateOf? offset

/-- The filter that decides about the messages that an event hands to a queue. -/
def filterOf (world : World) : Event → Message → Bool
  | .receive _ _ accepts _ _ => accepts
  | .handle _ request _ _ => FilterRule.allAccept (FilterRule.ofRequest request)
  | .respond task _ =>
    match world.tasks.get? task with
    | some (.pull _ _ _ _ (some (request, _))) =>
      FilterRule.allAccept (FilterRule.ofRequest request)
    | _ => fun _ => true
  | _ => fun _ => true

/-- The line about a call that asks to resolve an entry that is there. -/
def askedIn (world : World) (name : QueueId) (offset : Int) (event : Event) : LifeLog :=
  match event.asks? with
  | some (target, place, verdict) =>
    if target = name ∧ place = offset ∧ (world.entryState? name offset).isSome then
      [.asked verdict (world.step event).2.isEffective]
    else []
  | none => []

/-- The lines that an event leaves in the log of an entry. -/
def lifeIn (world : World) (name : QueueId) (offset : Int) (event : Event) : LifeLog :=
  match world.queues.get? name with
  | some queue =>
    (queue.offers (world.handed name event)).flatMap (Mark.begins (world.filterOf event) offset) ++
      world.askedIn name offset event ++
      (world.lines name event).filterMap (queue.takesBack? offset)
  | none => []

/-- The log of an entry over a list of events. -/
def life (name : QueueId) (offset : Int) : World → List Event → LifeLog
  | _, [] => []
  | world, event :: rest =>
    world.lifeIn name offset event ++ life name offset (world.step event).1 rest

theorem life_append (name : QueueId) (offset : Int) (world : World) (first second : List Event) :
    life name offset world (first ++ second) =
      life name offset world first ++ life name offset (world.run first) second := by
  induction first generalizing world with
  | nil => rfl
  | cons event rest ih =>
      rw [List.cons_append, life, life, ih, List.append_assoc]
      rfl

/-- The state of an entry in the client is that in its queue. -/
theorem entryState?_of_get? (here : world.queues.get? name = some queue) (offset : Int) :
    world.entryState? name offset = queue.stateOf? offset := by
  rw [entryState?, here, Option.bind_some]

theorem isPending_eq (world : World) (name : QueueId) (offset : Int) :
    world.isPending name offset = (world.entryState? name offset == some .pending) := rfl

/-! ### Calls -/

/-- Whoever asks to resolve an entry, the entry decides. -/
theorem step_of_asks (asks : event.asks? = some (name, offset, verdict)) :
    world.step event =
      (world.resolve name offset verdict, .resolved (world.isPending name offset)) := by
  cases event with
  | resolve target place other =>
      cases asks
      rfl
  | acknowledge delivery =>
      obtain ⟨message, target, place, hook⟩ := delivery
      cases hook with
      | some hook => cases asks
      | none =>
          cases asks
          rfl
  | _ => cases asks

/-- A call that asks for a verdict hands no message to a queue. -/
theorem handed_of_asks (asks : event.asks? = some (target, offset, verdict)) (name : QueueId) :
    world.handed name event = [] := by
  cases event with
  | resolve | acknowledge => rfl
  | _ => cases asks

/-- A call that comes late changes nothing. -/
theorem step_late (asks : event.asks? = some (name, offset, verdict))
    (resolved : world.entryState? name offset ≠ some .pending) :
    world.step event = (world, .resolved false) := by
  rw [step_of_asks asks, isPending_eq, beq_eq_false_iff_ne.mpr resolved]
  refine congrArg (·, Reply.resolved false) ?_
  unfold resolve onQueue
  split
  · rename_i queue here
    rw [entryState?_of_get? here] at resolved
    simp only [AckQueue.resolve_of_resolved resolved, setQueue, Table.set_of_get? here]
    rfl
  · rfl

/-- A call that finds the entry pending resolves it. -/
theorem step_effective (asks : event.asks? = some (name, offset, verdict))
    (pending : world.entryState? name offset = some .pending) :
    (world.step event).1.entryState? name offset = some verdict.state ∧
      (world.step event).2 = .resolved true := by
  obtain ⟨queue, here, has⟩ := Option.bind_eq_some_iff.mp pending
  rw [step_of_asks asks, isPending_eq, pending, beq_self_eq_true,
    entryState?_of_get? (resolve_queue here offset verdict), AckQueue.stateOf?_resolve,
    if_pos ⟨rfl, has⟩]
  exact ⟨rfl, rfl⟩

/-- A call makes no flush call. -/
theorem lines_of_asks (asks : event.asks? = some (target, place, verdict)) (name : QueueId) :
    world.lines name event = [] := by
  have idle : event.actor? = none := by
    cases event with
    | resolve | acknowledge => rfl
    | _ => cases asks
  rw [lines_of_aside name (.inl idle), handed_of_asks asks, offers_nil]

/-- The entries of other queues stay as they are. -/
theorem resolve_other (different : target ≠ name) (place : Int) (verdict : Verdict) :
    (world.resolve target place verdict).queues.get? name = world.queues.get? name := by
  unfold resolve onQueue
  split
  · simp only [frame_emitAll]
    exact (Table.get?_set ..).trans (if_neg different)
  · rfl

/-- A call that asks to resolve an entry tells of it. -/
theorem leadsTo_asks (asks : event.asks? = some (target, place, verdict))
    (here : world.queues.get? name = some queue) (leads : log.LeadsTo (queue.stateOf? offset)) :
    LifeLog.LeadsTo (log ++ world.askedIn name offset event)
      ((world.step event).1.entryState? name offset) := by
  simp only [askedIn, asks, step_of_asks asks]
  by_cases same : target = name
  · subst same
    have told := AckQueue.leadsTo_resolve leads place verdict
    rw [entryState?_of_get? (resolve_queue here place verdict), entryState?_of_get? here]
    by_cases own : place = offset
    · subst own
      simpa only [true_and, Reply.isEffective, isPending_eq, entryState?_of_get? here] using told
    · simpa only [own, false_and, and_false, if_false] using told
  · have spared := (resolve_other same place verdict).trans here
    rw [entryState?_of_get? spared, if_neg fun all => same all.1, List.append_nil]
    exact leads

/-! ### Intake -/

/-- The answer to a pull hands its messages to the queue of the entry, under the filter of the
request. -/
theorem Handling.takesIn {entryName : EntryId} {entry : PullEntry} {request : PullRequest}
    {response : PullResponse} {hook : Option HookId} {deliveries : List Delivery}
    (handling : Handling world entry request response hook changes deliveries)
    (present : world.entries.get? entryName = some entry)
    (here : world.queues.get? name = some queue) (first last : List Change)
    (aside : ∀ change ∈ first ++ last, change.queue? = none) :
    (world.after (first ++ changes ++ last)).queues.get? name =
      some (queue.receiveFor request (world.pulled name entryName response)).queue := by
  have beside : ∀ change ∈ first ++ last, change.queue? ≠ some name := by
    intro change member
    rw [aside change member]
    exact (Option.some_ne_none name).symm
  obtain ⟨before, behind⟩ := forall_append.mp beside
  have still : (∀ change ∈ changes, change.queue? ≠ some name) →
      world.pulled name entryName response = [] →
      (world.after (first ++ changes ++ last)).queues.get? name =
        some (queue.receiveFor request (world.pulled name entryName response)).queue := by
    intro unset nothing
    rw [nothing, queue_kept (forall_append.mpr ⟨forall_append.mpr ⟨before, unset⟩, behind⟩)]
    exact here
  cases handling with
  | rejected rejects => exact still (by simp) (by simp [pulled, rejects])
  | unlocked failed => exact still (by simp) (by simp [pulled, failed])
  | empty accepted locked nothing => exact still (by simp) (by simp [pulled, nothing])
  | dropped accepted locked something unserved =>
      exact still (by simp) (by simp [pulled, present, unserved])
  | @missing target accepted locked something serves absent =>
      have different : target ≠ name := by
        rintro rfl
        exact Option.some_ne_none queue (here.symm.trans absent)
      exact still (by simp) (by simp [pulled, present, serves, different])
  | @delivered target other accepted locked something serves there =>
      by_cases same : target = name
      · subst same
        cases here.symm.trans there
        have handed : world.pulled target entryName response = response.messages := by
          simp [pulled, present, serves]
        rw [handed]
        refine queue_set (by simp) (forall_append.mpr ⟨forall_append.mpr ⟨?_, by simp⟩, ?_⟩)
        · exact fun change member about => absurd about (before change member)
        · exact fun change member about => absurd about (behind change member)
      · exact still (by simp [same]) (by simp [pulled, present, serves, same])

/-- A queue that takes in a batch takes it in as a whole. -/
theorem Transition.takesIn (transition : Transition world event changes)
    (here : world.queues.get? name = some queue) (takes : event.takesIn = true)
    (unasked : event.asks? = none) :
    ∃ subject, (world.after changes).queues.get? name =
      some (queue.receive subject (world.filterOf event) (world.handed name event)).queue := by
  cases transition with
  | @registers target other message there =>
      refine ⟨"", ?_⟩
      simp only [handed]
      by_cases same : target = name
      · subst same
        cases here.symm.trans there
        rw [if_pos rfl]
        refine (Table.get?_set ..).trans ((if_pos rfl).trans (congrArg some ?_))
        -- A message that is registered directly is a batch of its own.
        unfold AckQueue.register AckQueue.receive
        cases queue.admits message <;> rfl
      · rw [if_neg same]
        exact (queue_kept (by simp [same])).trans here
  | @receives target other subject accepts hook messages there =>
      refine ⟨subject, ?_⟩
      simp only [handed]
      by_cases same : target = name
      · subst same
        cases here.symm.trans there
        rw [if_pos rfl]
        refine queue_set List.mem_cons_self ?_
        simp [filterOf]
      · rw [if_neg same]
        exact (queue_kept (by simp [same])).trans here
  | handles present handling =>
      have there := handling.takesIn present here [] [] (by simp)
      rw [List.nil_append, List.append_nil] at there
      exact ⟨_, there⟩
  | hooks => exact ⟨"", here⟩
  | @acknowledges delivery =>
      obtain ⟨message, target, place, hook⟩ := delivery
      cases hook with
      | none => cases unasked
      | some hook => exact absurd ‹_› (Option.some_ne_none hook)
  | @responds task entryName entry size timeout hook request deadline response _ _ own present
      handling =>
      simp only [filterOf, handed, own]
      exact ⟨_, handling.takesIn present here [_] [_] (by simp)⟩
  | respondsFailed fault own =>
      exact ⟨"", (queue_kept (by simp)).trans here⟩
  | respondsPanicked text own =>
      exact ⟨"", (queue_kept (by simp)).trans here⟩
  | _ => cases takes

/-- Only nothing is answered with nothing. -/
theorem eq_nil_of_offers {messages : List Message} (silent : queue.offers messages = []) :
    messages = [] := by
  cases messages with
  | nil => rfl
  | cons message rest => cases silent

/-- What takes in messages takes them in as a batch, under the filter of the event. -/
theorem takesIn_queue (here : world.queues.get? name = some queue)
    (takes : event.takesIn = true) (unasked : event.asks? = none) :
    ∃ subject, (world.step event).1.queues.get? name =
      some (queue.receive subject (world.filterOf event) (world.handed name event)).queue := by
  by_cases moves : ∃ changes, Transition world event changes
  · obtain ⟨changes, transition⟩ := moves
    rw [transition.step]
    exact transition.takesIn here takes unasked
  · have blocked := not_exists.mp moves
    have still := (world.decided event).resolve_left fun moves => moves.elim blocked
    have silent := offers_of_blocked blocked name
    simp only [offers, here] at silent
    rw [still, eq_nil_of_offers silent]
    exact ⟨"", here⟩

/-- An event that takes nothing in hands no message to a queue. -/
theorem handed_of_idle (idle : event.takesIn = false) (name : QueueId) :
    world.handed name event = [] := by
  cases event with
  | register | receive | handle | respond | acknowledge => cases idle
  | _ => rfl

/-! ### Steps -/

/-- A step that neither takes in messages nor resolves an entry tells of what a flush returned. -/
theorem QueueStep.leadsTo {after : World} {told : Account}
    (step : QueueStep world name queue event after told next) (sound : queue.Sound)
    (unasked : event.asks? = none) (idle : event.takesIn = false)
    (leads : log.LeadsTo (queue.stateOf? offset)) :
    LifeLog.LeadsTo (log ++ told.filterMap (queue.takesBack? offset)) (next.stateOf? offset) := by
  have calm : next.registered = queue.registered →
      LifeLog.LeadsTo (log ++ ([] : Account).filterMap (queue.takesBack? offset))
        (next.stateOf? offset) := by
    intro same
    rw [List.filterMap_nil, List.append_nil, AckQueue.stateOf?_congr same]
    exact leads
  cases step with
  | takes takes still => exact calm (congrArg _ (still idle))
  | resolves place verdict => exact nomatch unasked
  | background changed =>
      obtain ⟨_, _, _, _, rfl⟩ := changed.rest
      exact calm rfl
  | launches loop changed =>
      obtain ⟨_, _, _, _, rfl⟩ := changed.rest
      exact calm rfl
  | begins task ready absent =>
      rcases ready with rfl | rfl
      · exact calm rfl
      · obtain ⟨_, _, _, _, same⟩ := (AckQueue.Background.destroy : queue.Background _).rest
        exact calm (by rw [same]; rfl)
  | flushes task acts follows => exact sound.leadsTo_follows leads follows
  | leaves task =>
      obtain ⟨_, _, same⟩ := queue.closeFlush_rest task
      exact calm (by rw [same]; rfl)

/-- The lines of an event lead on to the state of the entry after it. -/
theorem Proper.leadsTo_event (proper : world.Proper) (event : Event)
    (here : world.queues.get? name = some queue) (leads : log.LeadsTo (queue.stateOf? offset)) :
    LifeLog.LeadsTo (log ++ world.lifeIn name offset event)
      ((world.step event).1.entryState? name offset) := by
  have sound := (proper.tidy name).sound queue here
  have offered : world.offers name (world.handed name event) =
      queue.offers (world.handed name event) := by
    simp only [offers, here]
  simp only [lifeIn, here]
  cases asks : event.asks? with
  | some asked =>
      obtain ⟨target, place, verdict⟩ := asked
      rw [handed_of_asks asks, lines_of_asks asks, List.filterMap_nil, List.append_nil]
      exact leadsTo_asks asks here leads
  | none =>
      have unasked : world.askedIn name offset event = [] := by simp only [askedIn, asks]
      rw [unasked, List.append_nil]
      by_cases takes : event.takesIn = true
      · -- The answers to a batch tell of no flush.
        have silent : (queue.offers (world.handed name event)).filterMap
            (queue.takesBack? offset) = [] := by
          refine List.filterMap_eq_nil_iff.mpr fun mark member => ?_
          obtain ⟨_, _, rfl⟩ := AckQueue.offered_of_mem_offers member
          rfl
        obtain ⟨subject, there⟩ := takesIn_queue here takes asks
        rw [lines_of_aside name (.inr takes), offered, silent, List.append_nil,
          entryState?_of_get? there]
        exact sound.leadsTo_receive leads subject (world.filterOf event) (world.handed name event)
      · have idle := Bool.eq_false_iff.mpr takes
        obtain ⟨told, next, there, lines, step⟩ := proper.queueStep event here
        rw [lines, handed_of_idle idle, offers_nil, List.nil_append, entryState?_of_get? there]
        exact step.leadsTo sound asks idle leads

/-- A queue that is made on the way has no entries. -/
theorem Proper.leadsTo_step (proper : world.Proper) (event : Event)
    (leads : log.LeadsTo (world.entryState? name offset)) :
    LifeLog.LeadsTo (log ++ world.lifeIn name offset event)
      ((world.step event).1.entryState? name offset) := by
  cases here : world.queues.get? name with
  | some queue =>
      rw [entryState?_of_get? here] at leads
      exact proper.leadsTo_event event here leads
  | none =>
      have absent : world.entryState? name offset = none := by simp only [entryState?, here]; rfl
      have unentered : (world.step event).1.entryState? name offset = none := by
        unfold entryState?
        cases there : (world.step event).1.queues.get? name with
        | none => rfl
        | some next =>
            obtain ⟨⟨assignment, _, made⟩, _⟩ := proper.made event here there
            have recorded := (AckQueue.Recorded.ofAssignment assignment _).stride made.stride
            have entries : next.registered = [] :=
              List.map_eq_nil_iff.mp recorded.tallied.admitted
            rw [Option.bind_some, AckQueue.stateOf?, entries]
            rfl
      have silent : world.lifeIn name offset event = [] := by simp only [lifeIn, here]
      rw [silent, List.append_nil, unentered, ← absent]
      exact leads

/-- From a log that leads to the state of an entry, a run leads on to its state. -/
theorem Proper.leadsTo (proper : world.Proper) (events : List Event)
    (leads : log.LeadsTo (world.entryState? name offset)) :
    LifeLog.LeadsTo (log ++ life name offset world events)
      ((world.run events).entryState? name offset) := by
  induction events generalizing world log with
  | nil =>
      rw [life, List.append_nil]
      exact leads
  | cons event rest ih =>
      rw [life, ← List.append_assoc]
      exact ih (proper.step event) (proper.leadsTo_step event leads)

/-! ### What stays -/

/-- A resolved entry stays as it is or is completed, whatever comes later. -/
theorem Proper.settled (proper : world.Proper) {state : AckState}
    (found : world.entryState? name offset = some state) (resolved : state ≠ .pending)
    (later : List Event) :
    (world.run later).entryState? name offset = some state ∨
      (world.run later).entryState? name offset = some .completed := by
  obtain ⟨queue, here, has⟩ := Option.bind_eq_some_iff.mp found
  have carried : ∃ next, (world.run later).queues.get? name = some next ∧
      (next.stateOf? offset = some state ∨ next.stateOf? offset = some .completed) := by
    refine proper.carries (fun stride before => ?_) later here (.inl has)
    rcases before with same | completed
    · exact stride.resolved same resolved
    · exact (stride.resolved completed nofun).elim .inr .inr
  obtain ⟨next, there, stays⟩ := carried
  rw [entryState?_of_get? there]
  exact stays

/-- An entry that was resolved once is there and resolved ever after. -/
theorem Proper.stays_resolved (proper : world.Proper) {state : AckState}
    (found : world.entryState? name offset = some state) (resolved : state ≠ .pending)
    (later : List Event) :
    ∃ state, (world.run later).entryState? name offset = some state ∧ state ≠ .pending := by
  rcases proper.settled found resolved later with same | completed
  · exact ⟨state, same, resolved⟩
  · exact ⟨.completed, completed, nofun⟩

/-- What a flush reads under the lock is resolved. -/
theorem Proper.readsIn_resolved (proper : world.Proper) {task : TaskId} {hand : List Int}
    (reads : world.readsIn name task event = some hand) (member : offset ∈ hand) :
    ∃ state, world.entryState? name offset = some state ∧ state ≠ .pending := by
  unfold readsIn at reads
  split at reads
  · split at reads
    · rename_i queue here
      split at reads
      · cases reads
        rw [entryState?_of_get? here]
        exact ((proper.tidy name).sound queue here).ordered.readyOffsets_resolved offset member
      · exact nomatch reads
    · exact nomatch reads
  · exact nomatch reads

/-- What a flush has read last is resolved at the end of a run. -/
theorem Proper.batch_resolved (proper : world.Proper) {task : TaskId} {hand : List Int}
    (events : List Event) (reads : batch name task world events = some hand)
    (member : offset ∈ hand) :
    ∃ state, (world.run events).entryState? name offset = some state ∧ state ≠ .pending := by
  induction events generalizing world with
  | nil => exact nomatch reads
  | cons event rest ih =>
      rcases Option.or_eq_some_iff.mp reads with later | ⟨_, now⟩
      · exact ih (proper.step event) later
      · obtain ⟨state, found, resolved⟩ := proper.readsIn_resolved now member
        exact proper.stays_resolved found resolved (event :: rest)

/-! ### Runs -/

/-- The life of an entry over a run, and what may still come. -/
structure EntryLife (start : World) (events : List Event) (name : QueueId) (offset : Int) :
    Prop where
  lived : (life name offset start events).Lived
  /-- The state of the entry is the last that it went through. -/
  current : (start.run events).entryState? name offset =
    (life name offset start events).states.getLast?
  /-- A call that finds the entry pending resolves it, and reports that it did. -/
  effective : ∀ event verdict, event.asks? = some (name, offset, verdict) →
    (start.run events).entryState? name offset = some .pending →
    ((start.run events).step event).1.entryState? name offset = some verdict.state ∧
      ((start.run events).step event).2 = .resolved true
  /-- Any other call reports that it came late, and changes nothing. -/
  late : ∀ event verdict, event.asks? = some (name, offset, verdict) →
    (start.run events).entryState? name offset ≠ some .pending →
    (start.run events).step event = (start.run events, .resolved false)
  /-- An acknowledgment through a hook leaves the entry to the continuation. -/
  hooked : ∀ delivery hook, delivery.hook = some hook →
    ((start.run events).step (.acknowledge delivery)).1.entryState? name offset =
      (start.run events).entryState? name offset
  /-- A rejection is final: no continuation that runs after it makes it an acknowledgment. -/
  rejected : ∀ message ∈ (life name offset start events).rejections, ∀ later,
    (life name offset start (events ++ later)).rejections = [message] ∧
      (life name offset start (events ++ later)).states <+:
        [.pending, .needRetry message, .completed]
  /-- A resolved entry stays as it is, or its message comes back and it is completed. -/
  settled : ∀ state, (start.run events).entryState? name offset = some state →
    state ≠ .pending → ∀ later,
    ((start.run events).run later).entryState? name offset = some state ∨
      ((start.run events).run later).entryState? name offset = some .completed
  /-- What a flush has read under the lock is never pending again. -/
  read : ∀ task hand, batch name task start events = some hand → offset ∈ hand → ∀ later,
    ∃ state, ((start.run events).run later).entryState? name offset = some state ∧
      state ≠ .pending

variable (epoch : Nat) (settings : Settings) (events : List Event)

/-- **One resolution.** Over every run of a client an entry goes from pending to completed, or from
pending to failed with the message of the one rejection and then to completed when that message is
back. The first call that asks to resolve it takes effect, and every later call, of either kind,
through a hook or not and also after the message came back, reports that it did not and changes
nothing. What a flush has read as resolved is never pending again. -/
theorem run_lives (name : QueueId) (offset : Int) :
    EntryLife (initial epoch settings) events name offset := by
  have proper := run_proper epoch settings events
  have leads : ∀ events, (life name offset (initial epoch settings) events).LeadsTo
      (((initial epoch settings).run events).entryState? name offset) := by
    intro events
    have begun : LifeLog.LeadsTo [] ((initial epoch settings).entryState? name offset) := rfl
    exact (proper_initial epoch settings).leadsTo events begun
  constructor
  case lived => exact (leads events).lived
  case current => exact (leads events).current
  case effective => exact fun event verdict => step_effective
  case late => exact fun event verdict => step_late
  case hooked =>
    rintro ⟨message, target, place, _⟩ hook rfl
    rfl
  case rejected =>
    intro message rejects later
    have lived := (leads (events ++ later)).lived
    rw [life_append] at lived ⊢
    exact lived.rejected rejects
  case settled => exact fun state found resolved => proper.settled found resolved
  case read =>
    intro task hand reads member later
    obtain ⟨state, found, resolved⟩ :=
      (proper_initial epoch settings).batch_resolved events reads member
    exact proper.stays_resolved found resolved later

/-- A message is rejected before the continuation of its hook runs: the continuation comes late,
before the message is back and after it. -/
example :
    let message := (default : Message).setKey .pullOffset "1"
    life 0 1 (initial 0 .standard)
        [.openQueue (.ofNames "s" "g" "p" "b" "c" .shared),
          .receive 0 "s" (fun _ => true) (some 7) [message], .acknowledge ⟨message, 0, 1, some 7⟩,
          .resolve 0 1 (.retry message), .resolve 0 1 .complete, .begin (.flush 0 100),
          .proceed 0 0, .proceed 0 0, .proceed 0 0, .answer 0 (.value ()),
          .resolve 0 1 .complete] =
      [.registered, .asked (.retry message) true, .asked .complete false, .returned,
        .asked .complete false] := by
  rfl

end World

end PullConsumer
