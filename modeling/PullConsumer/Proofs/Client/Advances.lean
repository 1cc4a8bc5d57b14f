import PullConsumer.Proofs.Client.Completeness
import PullConsumer.Proofs.Client.QueueMoves

/-! # Every event advances every queue

Whatever happens to a client, each of its queues is left alone, goes through one step of its own, or
is made (`World.Transition.advance`). Queues and tasks get unused names
(`World.Transition.numbered`).
-/

namespace PullConsumer.World

variable {world : World} {name target : QueueId} {task : TaskId} {queue next : AckQueue}
  {event : Event} {changes : List Change} {own : Task}

/-! ### Changes that concern one queue -/

/-- What happens to one queue that is there leaves the others alone. -/
theorem Advance.of_target {other : AckQueue}
    (here : world.queues.get? target = some other)
    (own : target = name → ∃ told next, Moved world target other event changes told next)
    (others : target ≠ name → Advance world name event changes) :
    Advance world name event changes := by
  by_cases same : target = name
  · obtain ⟨told, next, moved⟩ := own same
    subst same
    exact .moves here moved
  · exact others same

/-- What moves one queue, without a call, leaves the others alone. -/
theorem Advance.of_moved (here : world.queues.get? target = some queue) {told : Account}
    (moved : Moved world target queue event changes told next)
    (silent : Account.ofEffects (Change.effectsOf changes) = [])
    (others : ∀ other, target ≠ other →
      (∀ change ∈ changes, change.LeavesAlone world other) ∧ world.handed other event = [])
    (name : QueueId) : Advance world name event changes :=
  .of_target here (fun _ => ⟨told, next, moved⟩) fun different =>
    .quiet (others name different).1 silent (others name different).2

/-- A queue is made, and a task for its schedule may follow. -/
theorem Advance.opens (numbered : world.Numbered) (tidy : world.Tidy world.nextQueue)
    {assignment : Assignment} (opens : event.opens? = some assignment)
    (made : AckQueue.Made assignment world.live.current next)
    {later : List Change} (others : ∀ change ∈ later, change.queue? = none)
    (spares : ∀ change ∈ later, change.SparesTasks world world.nextQueue)
    (led : next.schedule = .absent ∧ next.loop = none ∨ next.loop = some world.nextTask ∧
      world.nextTask < (world.after (.makeQueue world.nextQueue next :: later)).nextTask ∧
      (world.after (.makeQueue world.nextQueue next :: later)).tasks.get? world.nextTask =
        some (.schedule world.nextQueue)) :
    Advance world world.nextQueue event (.makeQueue world.nextQueue next :: later) := by
  have absent := numbered.queues world.nextQueue (Nat.le_refl _)
  have there : (world.after (.makeQueue world.nextQueue next :: later)).queues.get?
      world.nextQueue = some next := by
    rw [after_cons, queue_kept fun change member => ?_]
    · exact (Table.get?_set ..).trans (if_pos rfl)
    · rw [others change member]
      exact (Option.some_ne_none _).symm
  have sound : next.Sound :=
    (AckQueue.Sound.ofAssignment assignment world.live.current).stride made.stride
  have idle : next.flushes = [] := by cases made <;> rfl
  refine .makes opens absent made there (.of_get? there sound (fun task => ?_)
    fun task loops => ?_) ?_
  · rw [flushOf?_after (fun change member _ => ?_) numbered, idle, tidy.flushes task]
    · exact ⟨fun ⟨queue, here, _⟩ => absurd (here.symm.trans absent) (Option.some_ne_none queue),
        nofun⟩
    · exact (List.forall_mem_cons.mpr ⟨trivial, spares⟩) change member
  · rcases led with ⟨_, none⟩ | ⟨loop, used, own⟩
    · exact absurd (loops.symm.trans none) (Option.some_ne_none task)
    · cases loops.symm.trans loop
      exact ⟨used, .inr own⟩
  · rcases led with ⟨unstarted, _⟩ | ⟨loop, _, own⟩
    · exact .inl unstarted
    · exact .inr ⟨_, loop, own⟩

namespace Advance

/-- The schedule of one queue is ended from outside. -/
theorem stops (numbered : world.Numbered) (tidy : world.Tidy target)
    (here : world.queues.get? target = some queue) (outside : world.Stops target event)
    (unhanded : ∀ name, world.handed name event = []) (name : QueueId) :
    Advance world name event (stopping target queue) := by
  refine .of_moved here (.stops numbered tidy here outside (unhanded target)) (by simp)
    (fun other different => ⟨List.forall_mem_cons.mpr ⟨?_, tidy.halting_alone here different⟩,
      unhanded other⟩) name
  simp [different]

/-- The schedule of one queue launches a flush. -/
theorem launches (numbered : world.Numbered) (tidy : world.Tidy target)
    (here : world.queues.get? target = some queue) {heard : AckQueue} {failures : Nat}
    (own : world.tasks.get? task = some (.schedule target))
    (flushes : heard.flushes = queue.flushes) (same : heard.loop = queue.loop)
    (changed : queue.Background { heard with schedule := .flushing failures world.nextTask })
    (unhanded : ∀ name, world.handed name event = [])
    (turn : ∀ after : World,
      after.tasks.get? world.nextTask = some (.scheduledFlush target task) →
      Turn world target queue task event after (.flushing failures world.nextTask))
    (name : QueueId) :
    Advance world name event [.spawn (.scheduledFlush target task),
      .setQueue target (heard.launch failures world.nextTask)] := by
  exact .of_moved here
    (.launches numbered tidy here own flushes same changed (unhanded target) turn) rfl
    (fun other different => ⟨by simp [Task.flushOf?, different], unhanded other⟩) name

/-- A bounded flush of one queue begins. -/
theorem drains (numbered : world.Numbered) (tidy : world.Tidy target)
    (here : world.queues.get? target = some queue) {timeout : Nat} {final : Bool}
    {parent : Option TaskId} {deadline : Nat} {ready : AckQueue} {first : List Change}
    (readies : world.Readies target queue event first ready)
    (own : world.tasks.get? task = some (.drain target timeout final none parent))
    (unhanded : ∀ name, world.handed name event = []) (name : QueueId) :
    Advance world name event (first ++ [.setQueue target (ready.openFlush task),
      .setTask task (.drain target timeout final (some deadline) parent)]) := by
  refine .of_moved here
    (.opens numbered tidy here readies own rfl nofun rfl (unhanded target)) ?_
    (fun other different => ⟨?_, unhanded other⟩) name
  · rw [effectsOf_append, readies.silent]
    rfl
  · refine List.forall_mem_append.mpr ⟨?_, by simp [Task.flushOf?, own, different]⟩
    cases readies with
    | opens => exact List.forall_mem_nil _
    | closes => exact tidy.halting_alone here different

/-- A flush of one queue goes on. -/
theorem flushes (numbered : world.Numbered) (tidy : world.Tidy target)
    (here : world.queues.get? target = some queue) (present : world.tasks.get? task = some own)
    (runs : own.flushOf? = some target) {final : Bool} {step : FlushStep}
    (follows : step.Follows queue task) (acts : event.actor? = some task)
    (unhanded : ∀ name, world.handed name event = []) (name : QueueId) :
    Advance world name event (adopting task target final step) := by
  refine .of_target here (fun _ => ?_) fun different => .alone ?_ ?_
    (offers_of_unhanded (unhanded name))
  · exact ⟨_, _, .follows numbered tidy here present runs follows acts (unhanded target)⟩
  · have elsewhere : own.flushOf? ≠ some name := by
      rw [runs]
      exact fun same => different (Option.some.inj same)
    have unscheduled : own ≠ .schedule name := by
      rintro rfl
      cases runs
    simp [flushOf?, present, different, elsewhere, unscheduled]
  · have lines : Account.ofEffects (Change.effectsOf (adopting task target final step)) =
        .ofEffects step.effects := by
      cases ended : step.ended <;> simp [ended, Account.ofEffects_append]
    rw [lines, linesOf_about follows.about ((flushOf?_of_get? present).trans runs),
      if_neg different]

/-- A flush of one queue is dropped, and its task ends. -/
theorem drops (numbered : world.Numbered) (tidy : world.Tidy target)
    (here : world.queues.get? target = some queue) (present : world.tasks.get? task = some own)
    (unscheduled : ∀ name, own ≠ .schedule name)
    (elsewhere : ∀ name, own.flushOf? = some name → target = name) {later : List Change}
    {result : TaskResult} (silent : Account.ofEffects (Change.effectsOf later) = [])
    (ends : .finish task result ∈ later)
    (only : ∀ change ∈ later, change = .finish task result ∨ ∃ effect, change = .effect effect)
    (unhanded : ∀ name, world.handed name event = []) (name : QueueId) :
    Advance world name event (dropping task target queue ++ later) := by
  refine .of_moved here (.drops numbered tidy here present (unscheduled target) silent ends only
    (unhanded target)) (by simp [Account.ofEffects_append, silent])
    (fun other different => ⟨?_, unhanded other⟩) name
  refine List.forall_mem_append.mpr ⟨by simp [different], fun change member => ?_⟩
  rcases only change member with rfl | ⟨effect, rfl⟩
  · have beside : own.flushOf? ≠ some other := fun runs => different (elsewhere other runs)
    simp [flushOf?, present, unscheduled other, beside]
  · simp

end Advance

/-- The messages of an answer go to the queue of the entry, unless it is a rejection or the lock has
failed. -/
theorem Handling.advance {entryName : EntryId} {entry : PullEntry} {request : PullRequest}
    {response : PullResponse} {hook : Option HookId} {deliveries : List Delivery}
    (handling : Handling world entry request response hook changes deliveries)
    (numbered : world.Numbered) (tidy : ∀ name, world.Tidy name)
    (present : world.entries.get? entryName = some entry) {first last : List Change}
    (beside : ∀ name, (∀ change ∈ first, change.LeavesAlone world name) ∧
      ∀ change ∈ last, change.LeavesAlone world name)
    (quiet : Account.ofEffects (Change.effectsOf first) = [] ∧
      Account.ofEffects (Change.effectsOf last) = [])
    (handed : ∀ name, world.handed name event = world.pulled name entryName response)
    (does : event.takesIn = true) (name : QueueId) :
    Advance world name event (first ++ changes ++ last) := by
  have still : (∀ change ∈ changes, change.LeavesAlone world name) →
      Account.ofEffects (Change.effectsOf changes) = [] →
      world.offers name (world.pulled name entryName response) = [] →
      Advance world name event (first ++ changes ++ last) := by
    intro leaves silent nothing
    refine .alone ?_ ?_ (by rw [handed, nothing])
    · exact List.forall_mem_append.mpr ⟨List.forall_mem_append.mpr ⟨(beside name).1, leaves⟩,
        (beside name).2⟩
    · simp [Account.ofEffects_append, quiet, silent, linesOf]
  cases handling with
  | rejected rejects =>
      exact still (by simp [Task.flushOf?]) rfl (by simp [pulled, rejects, offers_nil])
  | unlocked failed => exact still (by simp) rfl (by simp [pulled, failed, offers_nil])
  | empty accepted locked nothing =>
      exact still (by simp) rfl (by simp [pulled, nothing, offers_nil])
  | dropped accepted locked something unserved =>
      exact still (by simp) rfl (by simp [pulled, present, unserved, offers_nil])
  | @missing target accepted locked something serves absent =>
      refine still (by simp) (by simp [Change.effect?, Mark.ofEffect?]) ?_
      by_cases same : target = name
      · simp only [offers, ← same, absent]
      · simp [pulled, present, serves, same, offers_nil]
  | @delivered target queue accepted locked something serves here =>
      refine .of_target here (fun _ => ?_) fun different => ?_
      · have offered : world.offers target (world.handed target event) =
            queue.offers response.messages := by
          simp [handed, pulled, present, serves, offers, here]
        refine ⟨_, (queue.receiveFor request response.messages).queue, .takes numbered
          (tidy target) here (queue_set (by simp) ?_) ?_ offered (queue.receive_stride _ _ _)
          (queue.receive_takes _ _ _) does ?_ ?_⟩
        · refine List.forall_mem_append.mpr ⟨List.forall_mem_append.mpr
            ⟨fun change member about => ?_, by simp⟩, fun change member about => ?_⟩
          · exact absurd about ((beside target).1 change member).1
          · exact absurd about ((beside target).2 change member).1
        · simp [Account.ofEffects_append, quiet, Change.effect?, Mark.ofEffect?]
        · exact List.forall_mem_append.mpr ⟨List.forall_mem_append.mpr
            ⟨fun change member => ((beside target).1 change member).2.1, by simp⟩,
            fun change member => ((beside target).2 change member).2.1⟩
        · exact List.forall_mem_append.mpr ⟨List.forall_mem_append.mpr
            ⟨fun change member => ((beside target).1 change member).2.2, by simp⟩,
            fun change member => ((beside target).2 change member).2.2⟩
      · refine still (by simp [different]) (by simp [Change.effect?, Mark.ofEffect?]) ?_
        simp [pulled, present, serves, different, offers_nil]

/-! ### All events -/

/-- **Advances.** Every event leaves a queue alone, moves it, or makes it. -/
theorem Transition.advance (transition : Transition world event changes)
    (numbered : world.Numbered) (tidy : ∀ name, world.Tidy name) (name : QueueId) :
    Advance world name event changes := by
  cases transition with
  | fails | hooks | looksUp | announces | sets | removes | applies | setsRecorder | passes
  | opensPlaceholder | startsTwice =>
      refine .quiet ?_ ?_ rfl
      · simp
      · simp [Change.effect?, Mark.ofEffect?]
  | begins procedure =>
      refine .quiet ?_ rfl rfl
      cases procedure <;> simp [Procedure.task, Task.flushOf?]
  | refuses draw own | lapses draw own | skips draw own | closesTwice draw own
  | overruns own =>
      refine .quiet ?_ ?_ rfl
      · simp [flushOf?, Task.flushOf?, own]
      · simp [Change.effect?, Mark.ofEffect?]
  | pulls draw own | refreshes draw own | answersRelease answer own
  | answersRefresh answer own =>
      refine .alone ?_ ?_ ?_
      · simp [flushOf?, Task.flushOf?, own]
      · simp [linesOf, Change.effect?, Mark.ofEffect?, Mark.task?, flushOf?, Task.flushOf?, own]
      · exact world.offers_nil name
  | opensQueue assignment =>
      by_cases fresh : world.nextQueue = name
      · subst fresh
        exact .opens numbered (tidy _) rfl .opened (List.forall_mem_nil _) (List.forall_mem_nil _)
          (.inl ⟨rfl, rfl⟩)
      · refine .quiet ?_ rfl rfl
        simp [fresh]
  | opensEntry consume regular fresh =>
      by_cases own : world.nextQueue = name
      · subst own fresh
        refine .opens numbered (tidy _) rfl (.started world.nextTask) ?_ ?_
          (.inr ⟨rfl, ?_, ?_⟩)
        · simp
        · simp [Task.flushOf?]
        · simp [apply]
        · simp [apply, Table.get?_set]
      · refine .quiet ?_ rfl rfl
        simp [Task.flushOf?, own]
  | starts here unstarted =>
      exact .of_moved here (.starts numbered (tidy _) here unstarted rfl) rfl
        (fun other different => ⟨by simp [Task.flushOf?, different], rfl⟩) name
  | discards here => exact .stops numbered (tidy _) here .discard (fun _ => rfl) name
  | abortsSchedule own here =>
      exact .stops numbered (tidy _) here (.abort _ own) (fun _ => rfl) name
  | hears draw own here idle notified =>
      exact .launches numbered (tidy _) here own (by rfl) (by rfl)
        (.hear _ _ idle notified) (fun _ => rfl)
        (fun _ => .hears draw _ idle notified) name
  | elapses own here idle late =>
      exact .launches numbered (tidy _) here own (by rfl) (by rfl) (.elapse _ _ idle) (fun _ => rfl)
        (fun _ => .elapses _ idle late) name
  | retries own here waiting late =>
      exact .launches numbered (tidy _) here own (by rfl) (by rfl)
        (.retry _ _ _ waiting) (fun _ => rfl)
        (fun _ => .retries _ _ waiting late) name
  | closes draw own here alive marked =>
      subst marked
      exact .drains numbered (tidy _) here (.closes (.close _ draw _ _ own)) own (fun _ => rfl) name
  | drains draw own here =>
      exact .drains numbered (tidy _) here .opens own (fun _ => rfl) name
  | @flushes task own target queue draw there runs here =>
      exact .flushes numbered (tidy target) here there runs
        (((tidy target).sound queue here).turns.proceedFlush_follows task) rfl (fun _ => rfl) name
  | @answersFlush task own target queue answer there runs here =>
      exact .flushes numbered (tidy target) here there runs
        (((tidy target).sound queue here).turns.answerFlush_follows task answer) rfl (fun _ => rfl)
        name
  | registers message here =>
      exact .of_moved here (.registers numbered (tidy _) here message) rfl
        (fun other different => ⟨by simp [different], by simp [handed, different]⟩) name
  | receives subject accepts hook messages here =>
      exact .of_moved here (.receives numbered (tidy _) here subject accepts hook messages)
        (by simp [Change.effect?])
        (fun other different => ⟨by simp [different], by simp [handed, different]⟩) name
  | resolves offset verdict here =>
      exact .of_moved here (.resolves numbered (tidy _) here offset verdict)
        (by simp [Change.effect?]) (fun other different => ⟨by simp [different], rfl⟩) name
  | acknowledges unhooked here =>
      exact .of_moved here (.acknowledges numbered (tidy _) here) (by simp [Change.effect?])
        (fun other different => ⟨by simp [different], rfl⟩) name
  | entersWait draw own here entering =>
      exact .of_moved here (.waits numbered (tidy _) here own entering draw) rfl
        (fun other different => ⟨by simp [different], rfl⟩) name
  | notes draw own here flushing filed =>
      exact .of_moved here (.notes numbered (tidy _) here own flushing filed draw)
        (by simp [Change.effect?]) (fun other different => ⟨by simp [different], rfl⟩) name
  | @relinquishes task target entry kind marks draw own present idle =>
      have marked : marks = [] ∨ marks = marking kind target entry := by
        rcases idle with ⟨_, _, same⟩ | ⟨_, _, same⟩
        · exact .inl same
        · exact .inr same
      refine .quiet ?_ ?_ rfl
      · rcases marked with rfl | rfl <;>
          simp [flushOf?, Task.flushOf?, own]
      · rcases marked with rfl | rfl <;> simp [Change.effect?]
  | handsBack draw own present first serves =>
      refine .quiet ?_ ?_ rfl
      · simp [Task.flushOf?, own]
      · simp [Change.effect?]
  | @concludes task target entry kind drain result draw own filed present =>
      refine .alone ?_ ?_ (offers_of_unhanded rfl)
      · simp [flushOf?, Task.flushOf?, own]
      · cases released : entry.lockReleased <;>
          simp [linesOf, Change.effect?, Mark.ofEffect?, Mark.task?, flushOf?, Task.flushOf?, own,
            released]
  | @timesOut task target queue timeout deadline final parent own here late =>
      have ends : .finish task (resultOf (.outcome .timedOut)) ∈
          concluding task (queue.closeFlush task).1 final (.outcome .timedOut) :=
        List.mem_append_right _ List.mem_cons_self
      refine .drops numbered (tidy _) here own ?_ (fun _ => Option.some.inj) ?_
        (List.mem_cons_of_mem _ ends) (by simp) (fun _ => rfl) name
      · intro other same
        cases same
      · simp [Change.effect?, Mark.ofEffect?]
  | @abortsFlush task own target queue there works here =>
      refine .drops numbered (tidy _) here there ?_ ?_ rfl List.mem_cons_self (by simp)
        (fun _ => rfl) name
      · rintro other rfl
        cases works
      · intro other runs
        exact Option.some.inj (works.symm.trans (Task.worksOn?_of_flushOf? runs))
  | @aborts task own there unscheduled absent =>
      have elsewhere : own.flushOf? ≠ some name := by
        intro runs
        obtain ⟨queue, here, _⟩ :=
          ((tidy name).flushes task).mp ((flushOf?_of_get? there).trans runs)
        exact Option.some_ne_none queue
          (here.symm.trans (absent name (Task.worksOn?_of_flushOf? runs)))
      refine .quiet ?_ rfl rfl
      simp [flushOf?, there, unscheduled name, elsewhere]
  | handles present handling =>
      have nothing : ∀ name, ∀ change ∈ ([] : List Change), change.LeavesAlone world name :=
        fun _ => List.forall_mem_nil _
      rw [← List.append_nil changes]
      exact handling.advance numbered tidy present (fun name => ⟨nothing name, nothing name⟩)
        ⟨rfl, rfl⟩ (fun _ => rfl) rfl name
  | @responds task target entry size timeout hook request deadline response changes deliveries own
      present handling =>
      have handed : ∀ name, world.handed name (.respond task (.value response)) =
          world.pulled name target response := by simp [handed, own]
      have beside : ∀ name, (∀ change ∈ [.effect (.responded task (.value response))],
          Change.LeavesAlone world name change) ∧
          ∀ change ∈ [.finish task (.delivered deliveries)],
            Change.LeavesAlone world name change := by
        simp [flushOf?, Task.flushOf?, own]
      exact handling.advance numbered tidy present beside ⟨rfl, rfl⟩ handed rfl name
  | respondsFailed fault own | respondsPanicked text own =>
      refine .quiet ?_ ?_ rfl
      · simp [flushOf?, Task.flushOf?, own]
      · simp [Change.effect?, Mark.ofEffect?]

/-- Every event gives unused names to the queues and tasks that it makes. -/
theorem Transition.numbered (transition : Transition world event changes)
    (numbered : world.Numbered) : (world.after changes).Numbered := by
  refine numbered.of_changes ?_
  cases transition with
  | handles present handling | responds own present handling =>
      cases handling <;> simp [numbered.lt_nextQueue, *]
  | relinquishes draw own present idle =>
      rcases idle with ⟨_, _, rfl⟩ | ⟨_, _, rfl⟩ <;> simp
  | _ => simp [numbered.lt_nextQueue, numbered.lt_nextTask, *]

/-- Messages that are handed to a queue which is not there are not offered to any. -/
theorem offers_of_absent (absent : world.queues.get? target = none) (messages : List Message) :
    world.offers name (if target = name then messages else []) = [] := by
  split
  · rename_i same
    simp only [offers, ← same, absent]
  · exact world.offers_nil name

/-- An answer for an entry that is not there hands nothing to a queue. -/
theorem pulled_of_absent {entry : EntryId} (absent : world.entries.get? entry = none)
    (name : QueueId) (response : PullResponse) : world.pulled name entry response = [] := by
  simp only [pulled, absent]
  split <;> rfl

/-- An event that changes nothing offers no message to a queue. -/
theorem offers_of_blocked (blocked : ∀ changes, ¬ Transition world event changes)
    (name : QueueId) : world.offers name (world.handed name event) = [] := by
  cases event with
  | register target message =>
      cases here : world.queues.get? target with
      | none => exact offers_of_absent here [message]
      | some queue => exact absurd (.registers message here) (blocked _)
  | receive target subject accepts hook messages =>
      cases here : world.queues.get? target with
      | none => exact offers_of_absent here messages
      | some queue => exact absurd (.receives subject accepts hook messages here) (blocked _)
  | handle entryName request response hook =>
      cases present : world.entries.get? entryName with
      | none => exact offers_of_unhanded (pulled_of_absent present name response)
      | some entry =>
          obtain ⟨_, _, handling⟩ := exists_handling world entry request response hook
          exact absurd (.handles present handling) (blocked _)
  | respond task answer =>
      cases answer with
      | failed | panicked => exact offers_of_unhanded rfl
      | value response =>
          refine offers_of_unhanded ?_
          simp only [handed]
          split
          · rename_i entryName size timeout hook calling own
            cases present : world.entries.get? entryName with
            | none => exact pulled_of_absent present name response
            | some entry =>
                obtain ⟨_, _, handling⟩ :=
                  exists_handling world entry calling.1 response hook
                exact absurd (.responds own present handling) (blocked _)
          · rfl
  | _ => exact offers_of_unhanded rfl

end PullConsumer.World
