import PullConsumer.Proofs.Client.Completeness

/-! # The surroundings of a client

Time, settings and broker groups are read by every procedure of a client and changed by few. What an
event can do to them is listed in `World.SurroundingsStep`, and `World.step_surroundings` shows that
no event does anything else.
-/

namespace PullConsumer

/-- What a client shares with its surroundings: time, settings and broker groups. -/
structure Surroundings where
  clock : Nat
  epoch : Nat
  live : LiveSettings
  registry : GroupRegistry

namespace World

/-- The surroundings of a client at the moment. -/
def surroundings (world : World) : Surroundings :=
  ⟨world.clock, world.epoch, world.live, world.registry⟩

variable (world : World) (task : TaskId)

/-! ### What leaves the surroundings alone -/

@[simp] theorem surroundings_count (metric : Metric) (labels : Labels) (amount : Nat) :
    (world.count metric labels amount).surroundings = world.surroundings := by
  rw [count_eq]
  rfl

@[simp] theorem surroundings_emit (effect : Effect) :
    (world.emit effect).surroundings = world.surroundings := by
  rw [emit_eq]
  rfl

@[simp] theorem surroundings_emitAll (effects : List Effect) :
    (world.emitAll effects).surroundings = world.surroundings := by
  rw [emitAll_eq]
  rfl

@[simp] theorem surroundings_spawn (own : Task) :
    (world.spawn own).1.surroundings = world.surroundings := by
  rw [spawn_eq]
  rfl

@[simp] theorem surroundings_finish (result : TaskResult) :
    (world.finish task result).surroundings = world.surroundings := by
  rw [finish_eq]
  rfl

end World

/-- Whether a change is one of the surroundings. -/
def Change.isShared : Change → Bool
  | .setRegistry _ | .setLive _ | .pass _ => true
  | _ => false

namespace World

variable (world : World)

/-- A change of the client's own leaves the surroundings alone. -/
theorem surroundings_apply {change : Change} (own : change.isShared = false) :
    (world.apply change).surroundings = world.surroundings := by
  cases change with
  | effect effect => exact surroundings_emit world effect
  | spawn new => exact surroundings_spawn world new
  | finish task result => exact surroundings_finish world task result
  | setRegistry | setLive | pass => cases own
  | setQueue | setEntry | setTask | makeQueue | makeEntry | collect | dismiss | setRecorder => rfl

/-- Changes of the client's own leave the surroundings alone. -/
theorem surroundings_after {changes : List Change}
    (own : ∀ change ∈ changes, change.isShared = false) :
    (world.after changes).surroundings = world.surroundings :=
  after_keeps world surroundings fun change member before =>
    surroundings_apply before (own change member)

/-- A failed pull is noted against its group. -/
theorem surroundings_failing (entry : PullEntry) (group : GroupRef) :
    (world.after (world.failing entry group)).surroundings =
      { world.surroundings with registry := world.registry.markFailed group } := by
  rw [failing, after_append, after_effects, surroundings_emitAll]
  exact congrArg (fun shared : Surroundings =>
    { shared with registry := world.registry.markFailed group })
    (surroundings_count world .pullFail (labelsOf entry) 1)

/-- To mark a group as failed is all that a failed pull does to the surroundings. -/
theorem surroundings_markFailed (entry : PullEntry) (group : GroupRef) :
    (world.markFailed entry group).surroundings =
      { world.surroundings with registry := world.registry.markFailed group } := by
  rw [← failing_eq, surroundings_failing]

/-- The answer to a pull takes the answering group out of use if it is a rejection. -/
theorem Handling.surroundings {world : World} {entry : PullEntry} {request : PullRequest}
    {response : PullResponse} {hook : Option HookId} {changes : List Change}
    {deliveries : List Delivery}
    (handles : Handling world entry request response hook changes deliveries) :
    (world.after changes).surroundings =
      if response.code = .brokerReject then
        { world.surroundings with
          registry := world.registry.setAvailable response.brokerGroup false }
      else world.surroundings := by
  cases handles with
  | rejected rejects =>
      rw [if_pos rejects]
      exact surroundings_spawn _ _
  | unlocked failed =>
      rw [if_neg (by rw [failed]; exact nofun)]
      rfl
  | empty accepted | dropped accepted | missing accepted | delivered accepted =>
      rw [if_neg accepted]
      exact surroundings_after world (by simp [Change.isShared])

/-- The answer to a pull takes the answering group out of use if it is a rejection, and does nothing
else to the surroundings. -/
theorem surroundings_handle (entry : PullEntry) (request : PullRequest) (response : PullResponse)
    (hook : Option HookId) :
    (world.handle entry request response hook).1.surroundings =
      if response.code = .brokerReject then
        { world.surroundings with
          registry := world.registry.setAvailable response.brokerGroup false }
      else world.surroundings := by
  obtain ⟨changes, deliveries, handles⟩ := exists_handling world entry request response hook
  rw [handles.eq, handles.surroundings]

/-! ### All events -/

/-- All that an event can do to the surroundings of a client. -/
inductive SurroundingsStep (shared : Surroundings) : Event → Surroundings → Prop
  | ignores (event : Event) : SurroundingsStep shared event shared
  | elapses (milliseconds : Nat) :
      SurroundingsStep shared (.tick milliseconds)
        { shared with clock := shared.clock + milliseconds }
  | applies (settings : Settings) :
      SurroundingsStep shared (.applySettings settings)
        { shared with live := shared.live.apply settings }
  | handsOut (assignment : Assignment) (consume : ConsumeParam) :
      SurroundingsStep shared (.openEntry assignment consume)
        { shared with live := shared.live.handOut assignment.subject }
  | looksUp (event : Event) (group : String) :
      SurroundingsStep shared event { shared with registry := (shared.registry.lookUp group).1 }
  | fails (event : Event) (group : GroupRef) :
      SurroundingsStep shared event { shared with registry := shared.registry.markFailed group }
  | rejects (event : Event) (group : GroupRef) :
      SurroundingsStep shared event
        { shared with registry := shared.registry.setAvailable group false }
  | sets (group : GroupRef) (available : Bool) :
      SurroundingsStep shared (.setGroup group available)
        { shared with registry := shared.registry.setAvailable group available }
  | announces (group : String) :
      SurroundingsStep shared (.groupAvailable group)
        { shared with registry := shared.registry.markAvailable group }
  | removes (group : String) :
      SurroundingsStep shared (.removeGroup group)
        { shared with registry := shared.registry.remove group }

/-- The answer to a pull is a step of the surroundings. -/
theorem SurroundingsStep.of_handling (world : World) {event : Event} {entry : PullEntry}
    {request : PullRequest} {response : PullResponse} {hook : Option HookId}
    {changes : List Change} {deliveries : List Delivery}
    (handles : Handling world entry request response hook changes deliveries) :
    SurroundingsStep world.surroundings event (world.after changes).surroundings := by
  rw [handles.surroundings]
  split
  · exact .rejects event response.brokerGroup
  · exact .ignores event

/-- An entry takes the timeout of its subject at its making. -/
theorem surroundings_openEntry (assignment : Assignment) (consume : ConsumeParam) :
    (world.openEntry assignment consume).1.surroundings =
      { world.surroundings with live := world.live.handOut assignment.subject } := by
  cases blank : assignment.isPlaceholder with
  | true => exact congrArg surroundings (Transition.opensPlaceholder consume blank).step
  | false =>
      have opens : Transition world (.openEntry assignment consume) _ :=
        .opensEntry consume blank rfl
      exact (congrArg surroundings opens.step).trans (congrArg (fun shared : Surroundings =>
        { shared with live := world.live.handOut assignment.subject }) (surroundings_spawn _ _))

/-- **Surroundings.** No event does more to time, settings and broker groups than is listed. -/
theorem step_surroundings (event : Event) :
    SurroundingsStep world.surroundings event (world.step event).1.surroundings := by
  refine step_cases (fun after => SurroundingsStep world.surroundings event after.surroundings)
    (.ignores event) fun changes transition => ?_
  -- Most transitions touch nothing that is shared.
  have ignores : (∀ change ∈ changes, change.isShared = false) →
      SurroundingsStep world.surroundings event (world.after changes).surroundings := by
    intro own
    rw [surroundings_after world own]
    exact .ignores event
  cases transition with
  | opensPlaceholder consume blank => exact .handsOut _ consume
  | opensEntry consume regular fresh =>
      rw [← (Transition.opensEntry consume regular fresh).step]
      exact world.surroundings_openEntry _ consume ▸ .handsOut _ consume
  | handles present handles => exact .of_handling world handles
  | fails group present =>
      rw [surroundings_failing]
      exact .fails _ group
  | looksUp name => exact .looksUp _ name
  | announces name =>
      rw [after_cons, after_effects, surroundings_emitAll]
      exact .announces name
  | sets group available => exact .sets group available
  | removes name => exact .removes name
  | applies settings =>
      rw [after_cons, after_effects, surroundings_emitAll]
      exact .applies settings
  | passes milliseconds => exact .elapses milliseconds
  | skips draw own present standing serves leased found
  | pulls draw own present standing serves leased found =>
      obtain rfl : (world.registry.lookUp _).1 = _ := congrArg Prod.fst found
      rw [after_cons, surroundings_after _ (by simp [Change.isShared])]
      exact .looksUp _ _
  | responds own present handles =>
      rw [after_append, after_cons, after_nil, apply, surroundings_finish]
      exact SurroundingsStep.of_handling (world.record (.responded _ _)) (handles.record _)
  | respondsFailed fault own present =>
      rw [after_append, after_cons, after_nil, apply, surroundings_finish]
      exact surroundings_failing (world.record _) _ _ ▸ .fails _ _
  | overruns own present late =>
      rw [after_append, after_cons, after_nil, apply, surroundings_finish, surroundings_failing]
      exact .fails _ _
  | opensQueue | startsTwice | starts | discards | registers | resolves | receives | hooks
  | acknowledges | setsRecorder | begins | entersWait | hears | notes | flushes | closesTwice
  | closes | drains | refuses | lapses | handsBack | concludes | refreshes | answersFlush
  | answersRelease | answersRefresh | respondsPanicked | elapses | retries | timesOut
  | abortsSchedule | abortsFlush | aborts =>
      exact ignores (by simp [Change.isShared])
  | relinquishes draw own present idle =>
      rcases idle with ⟨_, _, rfl⟩ | ⟨_, _, rfl⟩ <;>
        exact ignores (by simp [Change.isShared])

/-- Time goes on, and the wall clock is set once. -/
theorem SurroundingsStep.time {shared next : Surroundings} {event : Event}
    (step : SurroundingsStep shared event next) :
    next.epoch = shared.epoch ∧ shared.clock ≤ next.clock := by
  cases step with
  | elapses milliseconds => exact ⟨rfl, Nat.le_add_right ..⟩
  | ignores | applies | handsOut | looksUp | fails | rejects | sets | announces | removes =>
      exact ⟨rfl, Nat.le_refl _⟩

/-- Over a run the epoch stays and the clock only goes forward. -/
theorem run_time (events : List Event) :
    (world.run events).epoch = world.epoch ∧ world.clock ≤ (world.run events).clock := by
  induction events generalizing world with
  | nil => exact ⟨rfl, Nat.le_refl _⟩
  | cons event rest ih =>
      obtain ⟨epoch, clock⟩ := (world.step_surroundings event).time
      obtain ⟨same, later⟩ := ih (world.step event).1
      exact ⟨same.trans epoch, Nat.le_trans clock later⟩

end World

end PullConsumer
