import PullConsumer.Proofs.Client.Completeness
import PullConsumer.Proofs.Client.Tables

/-! # What a step does not read

Nothing that a client does depends on its recorder, on its account of the past, or on the results of
tasks that nobody waits for. A client in which these are other takes the same steps
(`World.varied_step`). In particular, the step of a client under another recorder and after another
past is the same step, written down as that recorder has it (`World.rewritten_step`).
-/

namespace PullConsumer

/-- What an effect leaves in the account, the latest first: an increment that the recorder does not
take leaves its failure and a warning. -/
def Effect.written (works : Bool) : Effect → List Effect
  | .counted metric labels amount =>
    if works then [.counted metric labels amount]
    else [.notice (.bestEffortFailed metric.context (.metricsRecorder metric.name)),
      .recorderFailed metric]
  | effect => [effect]

/-- What may be different about a client: its recorder may be broken, its past may be another, and
so may the results of its tasks. -/
structure Variation where
  works : Bool
  past : List Effect
  results : Table TaskResult → Table TaskResult

/-- The result of a task reads the same in a variation, and it is written and taken in the same
way. -/
structure Variation.Preserves (variation : Variation) (task : TaskId) : Prop where
  get? : ∀ results, (variation.results results).get? task = results.get? task
  set : ∀ results result,
    (variation.results results).set task result = variation.results (results.set task result)
  erase : ∀ results, (variation.results results).erase task = variation.results (results.erase task)

namespace World

/-- The same client in another variation. -/
def varied (variation : Variation) (world : World) : World :=
  { world with
    recorderWorks := world.recorderWorks && variation.works
    results := variation.results world.results
    history := world.history.flatMap (Effect.written variation.works) ++ variation.past }

/-- A client admits a variation that preserves every result it writes and waits for. -/
structure Admits (variation : Variation) (world : World) : Prop where
  tasks : ∀ task own, world.tasks.get? task = some own → variation.Preserves task
  flushes : ∀ name queue failures flush, world.queues.get? name = some queue →
    queue.schedule = .flushing failures flush → variation.Preserves flush
  drains : ∀ task name kind drain,
    world.tasks.get? task = some (.handBack name kind (.draining drain)) → variation.Preserves drain

variable {variation : Variation} {task : TaskId} (world : World)

theorem varied_queues : (world.varied variation).queues = world.queues := rfl

theorem varied_entries : (world.varied variation).entries = world.entries := rfl

/-! ### Changes -/

/-- An increment is lost if the recorder is broken, here or there. -/
theorem varied_count (metric : Metric) (labels : Labels) (amount : Nat) :
    (world.varied variation).count metric labels amount =
      (world.count metric labels amount).varied variation := by
  cases own : world.recorderWorks <;> cases works : variation.works <;>
    simp [count, varied, own, works, Effect.written, record, bestEffort]

theorem varied_wake : (world.varied variation).wake task = (world.wake task).varied variation := by
  by_cases waits : task ∈ world.ready
  · have still : (world.varied variation).wake task = world.varied variation := if_pos waits
    rw [still, wake, if_pos waits]
  · have adds : (world.varied variation).wake task =
        { world.varied variation with ready := world.ready ++ [task] } := if_neg waits
    rw [adds, wake, if_neg waits]
    rfl

theorem varied_emit (effect : Effect) :
    (world.varied variation).emit effect = (world.emit effect).varied variation := by
  cases effect with
  | counted metric labels amount => exact world.varied_count metric labels amount
  | woken other => exact world.varied_wake
  | notice | recorderFailed | called | answered | responded | hooked => rfl

theorem varied_spawn (own : Task) :
    ((world.varied variation).spawn own).1 = (world.spawn own).1.varied variation :=
  varied_wake
    { world with tasks := world.tasks.set world.nextTask own, nextTask := world.nextTask + 1 }

/-- A task ends in the same way if its result is written in the same way. -/
theorem varied_finish (preserved : variation.Preserves task) (result : TaskResult) :
    (world.varied variation).finish task result = (world.finish task result).varied variation := by
  have same : (world.varied variation).parent? task = world.parent? task := rfl
  have filed : ({ world.varied variation with
        tasks := (world.varied variation).tasks.erase task
        results := (world.varied variation).results.set task result } : World) =
      { world with
        tasks := world.tasks.erase task, results := world.results.set task result }.varied variation := by
    rw [varied, varied, ← preserved.set]
  unfold finish
  rw [same, filed]
  cases world.parent? task with
  | none => rfl
  | some parent => exact varied_wake _

/-- A change is brought about in every variation alike, unless it is one of the recorder. -/
theorem varied_apply {change : Change} (keeps : ∀ works, change ≠ .setRecorder works)
    (preserved : ∀ task, change.resultOf? = some task → variation.Preserves task) :
    (world.varied variation).apply change = (world.apply change).varied variation := by
  cases change with
  | effect effect => exact world.varied_emit effect
  | spawn own => exact world.varied_spawn own
  | finish task result => exact world.varied_finish (preserved task rfl) result
  | collect task =>
      exact congrArg (fun results => { world.varied variation with results := results })
        ((preserved task rfl).erase _)
  | setRecorder works => exact absurd rfl (keeps works)
  | setQueue | setEntry | setTask | makeQueue | makeEntry | dismiss | setRegistry | setLive
  | pass => rfl

/-- Changes are brought about in every variation alike. -/
theorem varied_after {changes : List Change}
    (keeps : ∀ change ∈ changes, ∀ works, change ≠ .setRecorder works)
    (preserved : ∀ change ∈ changes, ∀ task, change.resultOf? = some task →
      variation.Preserves task) :
    (world.varied variation).after changes = (world.after changes).varied variation := by
  induction changes generalizing world with
  | nil => rfl
  | cons change rest ih =>
      rw [after_cons, after_cons, world.varied_apply (keeps change List.mem_cons_self)
        (preserved change List.mem_cons_self)]
      exact ih _ (fun other member => keeps other (List.mem_cons_of_mem change member))
        fun other member => preserved other (List.mem_cons_of_mem change member)

/-! ### Transitions -/

variable {world : World} {event : Event} {changes : List Change}

/-- The handling of an answer reads neither the recorder, nor results, nor the account. -/
theorem Handling.congr {entry : PullEntry} {request : PullRequest} {response : PullResponse}
    {hook : Option HookId} {deliveries : List Delivery}
    (handling : Handling world entry request response hook changes deliveries) (works : Bool)
    (results : Table TaskResult) (history : List Effect) :
    Handling { world with recorderWorks := works, results := results, history := history }
      entry request response hook changes deliveries := by
  cases handling with
  | rejected rejects => exact .rejected rejects
  | unlocked failed => exact .unlocked failed
  | empty accepted locked nothing => exact .empty accepted locked nothing
  | dropped accepted locked something unserved => exact .dropped accepted locked something unserved
  | missing accepted locked something serves absent =>
      exact .missing accepted locked something serves absent
  | delivered accepted locked something serves here =>
      exact .delivered accepted locked something serves here

/-- Transitions read neither the recorder nor the account, and only the results that are waited
for. -/
theorem Transition.congr (transition : Transition world event changes) {works : Bool}
    {results : Table TaskResult} {history : List Effect}
    (flushes : ∀ name queue failures flush, world.queues.get? name = some queue →
      queue.schedule = .flushing failures flush →
        results.get? flush = world.results.get? flush)
    (drains : ∀ task name kind drain,
      world.tasks.get? task = some (.handBack name kind (.draining drain)) →
        results.get? drain = world.results.get? drain) :
    Transition { world with recorderWorks := works, results := results, history := history }
      event changes := by
  cases transition with
  | opensQueue assignment => exact .opensQueue assignment
  | startsTwice here started => exact .startsTwice here started
  | starts here unstarted => exact .starts here unstarted
  | discards here => exact .discards here
  | registers message here => exact .registers message here
  | resolves offset verdict here => exact .resolves offset verdict here
  | receives subject accepts hook messages here =>
      exact .receives subject accepts hook messages here
  | opensPlaceholder consume blank => exact .opensPlaceholder consume blank
  | opensEntry consume regular fresh => exact .opensEntry consume regular fresh
  | handles present handling => exact .handles present (handling.congr ..)
  | fails group present => exact .fails group present
  | hooks hooked => exact .hooks hooked
  | acknowledges unhooked here => exact .acknowledges unhooked here
  | looksUp name => exact .looksUp name
  | announces name => exact .announces name
  | sets group available => exact .sets group available
  | removes name => exact .removes name
  | applies settings => exact .applies settings
  | setsRecorder works => exact .setsRecorder works
  | begins procedure => exact .begins procedure
  | entersWait draw own here entering => exact .entersWait draw own here entering
  | hears draw own here idle notified => exact .hears draw own here idle notified
  | notes draw own here flushing filed =>
      rw [← flushes _ _ _ _ here flushing] at filed
      exact .notes draw own here flushing filed
  | flushes draw there runs here => exact .flushes draw there runs here
  | closesTwice draw own here closed => exact .closesTwice draw own here closed
  | closes draw own here alive marked => exact .closes draw own here alive marked
  | drains draw own here => exact .drains draw own here
  | refuses draw own present shut => exact .refuses draw own present shut
  | lapses draw own present standing serves expired =>
      exact .lapses draw own present standing serves expired
  | skips draw own present standing serves leased found unavailable =>
      exact .skips draw own present standing serves leased found unavailable
  | pulls draw own present standing serves leased found available asked =>
      exact .pulls draw own present standing serves leased found available asked
  | relinquishes draw own present idle => exact .relinquishes draw own present idle
  | handsBack draw own present first serves => exact .handsBack draw own present first serves
  | concludes draw own filed present =>
      rw [← drains _ _ _ _ own] at filed
      exact .concludes draw own filed present
  | refreshes draw own => exact .refreshes draw own
  | answersFlush answer there runs here => exact .answersFlush answer there runs here
  | answersRelease answer own => exact .answersRelease answer own
  | answersRefresh answer own => exact .answersRefresh answer own
  | responds own present handling => exact .responds own present (handling.congr ..)
  | respondsFailed fault own present => exact .respondsFailed fault own present
  | respondsPanicked text own present => exact .respondsPanicked text own present
  | elapses own here idle late => exact .elapses own here idle late
  | retries own here waiting late => exact .retries own here waiting late
  | timesOut own here late => exact .timesOut own here late
  | overruns own present late => exact .overruns own present late
  | abortsSchedule own here => exact .abortsSchedule own here
  | abortsFlush there works here => exact .abortsFlush there works here
  | aborts there unscheduled absent => exact .aborts there unscheduled absent
  | passes milliseconds => exact .passes milliseconds

/-- The same transitions are there in another variation. -/
theorem Admits.transition_iff (admits : world.Admits variation) :
    Transition (world.varied variation) event changes ↔ Transition world event changes := by
  constructor
  · intro transition
    exact transition.congr
      (fun name queue failures flush here flushing =>
        ((admits.flushes name queue failures flush here flushing).get? _).symm)
      fun task name kind drain own => ((admits.drains task name kind drain own).get? _).symm
  · intro transition
    exact transition.congr
      (fun name queue failures flush here flushing =>
        (admits.flushes name queue failures flush here flushing).get? _)
      fun task name kind drain own => (admits.drains task name kind drain own).get? _

/-- A transition writes and takes only results that an admitted variation preserves. -/
theorem Admits.preserves (admits : world.Admits variation)
    (transition : Transition world event changes) :
    ∀ change ∈ changes, ∀ task, change.resultOf? = some task → variation.Preserves task := by
  cases transition with
  | notes draw own here flushing =>
      simpa [Change.resultOf?] using admits.flushes _ _ _ _ here flushing
  | concludes draw own =>
      have drain := admits.drains _ _ _ _ own
      have ends := admits.tasks _ _ own
      unfold releasing
      split <;> simp [Change.resultOf?, drain, ends]
  | relinquishes draw own present idle =>
      have ends := admits.tasks _ _ own
      rcases idle with ⟨_, _, rfl⟩ | ⟨_, _, rfl⟩ <;> simp [Change.resultOf?, ends]
  | handles present handling => cases handling <;> simp [Change.resultOf?]
  | responds own present handling =>
      have ends := admits.tasks _ _ own
      cases handling <;> simp [Change.resultOf?, ends]
  | flushes _ own | closesTwice _ own | refuses _ own | lapses _ own | skips _ own
  | answersFlush _ own | answersRelease _ own | answersRefresh _ own | respondsFailed _ own
  | respondsPanicked _ own | timesOut own | overruns own | abortsFlush own | aborts own =>
      have ends := admits.tasks _ _ own
      simp [Change.resultOf?, ends]
  | _ => simp [Change.resultOf?]

/-- A pull entry gets the next name. -/
theorem openEntry_name (world : World) (assignment : Assignment) (consume : ConsumeParam) :
    (world.openEntry assignment consume).2 = world.nextEntry := by
  have started : ((world.openQueue assignment).1.startQueue world.nextQueue).nextEntry =
      world.nextEntry := by
    unfold startQueue
    split
    · rfl
    · split
      · rfl
      · exact (spawn_rest ..).2
  cases blank : assignment.isPlaceholder with
  | true => simp only [openEntry, blank, if_true]
  | false =>
      simp only [openEntry, blank, Bool.false_eq_true, if_false]
      exact started

/-- The reply to an event is read off queues and entries. -/
theorem varied_reply (world : World) (event : Event) :
    ((world.varied variation).step event).2 = (world.step event).2 := by
  cases event with
  | openEntry assignment consume =>
      simp only [step, openEntry_name]
      rfl
  | register name message =>
      cases here : world.queues.get? name <;> simp only [step, varied_queues, here]
  | receive name subject accepts hook messages =>
      cases here : world.queues.get? name <;> simp only [step, World.receive, varied_queues, here]
  | handle name request response hook =>
      cases present : world.entries.get? name with
      | none => simp only [step, varied_entries, present]
      | some entry =>
          obtain ⟨changes, deliveries, handling⟩ :=
            exists_handling world entry request response hook
          have again : Handling (world.varied variation) entry request response hook changes
              deliveries := handling.congr ..
          simp only [step, varied_entries, present, handling.eq, again.eq]
  | markFailed name group =>
      cases present : world.entries.get? name <;> simp only [step, varied_entries, present]
  | acknowledge delivery =>
      cases hook : delivery.hook <;> simp only [step, hook] <;> rfl
  | _ => rfl

/-- **A step reads no more.** In a variation that the client admits an event does the same and
replies the same. -/
theorem varied_step (admits : world.Admits variation) (event : Event)
    (keeps : ∀ works, event ≠ .setRecorder works) :
    (world.varied variation).step event =
      ((world.step event).1.varied variation, (world.step event).2) := by
  refine Prod.ext ?_ (varied_reply world event)
  by_cases moves : ∃ changes, Transition world event changes
  · obtain ⟨changes, transition⟩ := moves
    rw [transition.step, (admits.transition_iff.mpr transition).step]
    exact varied_after world (transition.keepsRecorder keeps) (admits.preserves transition)
  · have stuck : ¬ ∃ changes, Transition (world.varied variation) event changes :=
      fun ⟨changes, transition⟩ => moves ⟨changes, admits.transition_iff.mp transition⟩
    rw [((world.varied variation).decided event).resolve_left stuck,
      (world.decided event).resolve_left moves]

/-! ### Another past -/

/-- The same client after another past, with a recorder that may be broken. -/
def rewritten (works : Bool) (past : List Effect) (world : World) : World :=
  { world with
    recorderWorks := world.recorderWorks && works
    history := world.history.flatMap (Effect.written works) ++ past }

/-- **The account is not read.** Under another recorder and after another past an event does the
same and replies the same. -/
theorem rewritten_step {works : Bool} {past : List Effect} (world : World) (event : Event)
    (keeps : ∀ works, event ≠ .setRecorder works) :
    (world.rewritten works past).step event =
      ((world.step event).1.rewritten works past, (world.step event).2) := by
  have preserved : ∀ task, (Variation.mk works past id).Preserves task := fun _ =>
    ⟨fun _ => rfl, fun _ _ => rfl, fun _ => rfl⟩
  have admits : world.Admits ⟨works, past, id⟩ :=
    ⟨fun _ _ _ => preserved _, fun _ _ _ _ _ _ => preserved _, fun _ _ _ _ _ => preserved _⟩
  exact varied_step admits event keeps

end World

end PullConsumer
