import PullConsumer.Proofs.Queue.Rounds

/-! # Wake-ups of the schedule

The signal of a queue counts its resolved entries. Once these make a batch that could be sent, a
wake-up is stored or being delivered, or the schedule needs none (`AckQueue.Alarmed`). Every move of
a queue keeps that.
-/

namespace PullConsumer

/-- Whether a wake-up is stored or being delivered. -/
def AckSignal.Raised (signal : AckSignal) : Prop :=
  signal.permit = true ∨ signal.listener = .notified

/-- Whether who listens has heard of what was raised: nothing is stored while it waits. -/
def AckSignal.Heard (signal : AckSignal) : Prop :=
  signal.listener = .notified ∨ signal.listener = .waiting ∧ signal.permit = false

/-- Whether the schedule waits for the signal. -/
def Schedule.Listens : Schedule → Prop
  | .idle _ => True
  | _ => False

/-- Whether the schedule needs no wake-up: it goes by the time after a failure, is over, or awaits a
flush that may still send what is resolved. -/
def Schedule.Excused (maySend : TaskId → Prop) : Schedule → Prop
  | .absent | .idle _ | .entering 0 => False
  | .entering (_ + 1) | .backingOff .. | .stopped => True
  | .flushing _ flush => maySend flush

namespace AckSignal

/-- A notification touches only the permit and the listener, raises the signal, and is not heard
where nobody listens. -/
theorem notify_rest (signal : AckSignal) :
    ∃ permit listener, signal.notify = { signal with permit := permit, listener := listener } ∧
      signal.notify.Raised ∧ (signal.listener = .absent → listener = .absent) ∧
      (signal.Heard → signal.notify.Heard) := by
  unfold notify
  split
  · rename_i waiting
    refine ⟨_, _, rfl, .inr rfl, fun absent => ?_, fun _ => .inl rfl⟩
    rw [waiting] at absent
    exact nomatch absent
  · rename_i unheard
    exact ⟨_, _, rfl, .inl rfl, id, fun heard =>
      .inl (heard.resolve_right fun waits => unheard waits.1)⟩

/-- A resolution is counted, and raises the signal from the threshold on. -/
theorem raise_rest (signal : AckSignal) :
    ∃ permit listener, signal.raise =
        { signal with resolved := signal.resolved + 1, permit := permit, listener := listener } ∧
      (signal.threshold ≤ signal.resolved + 1 → signal.raise.Raised) ∧
      (signal.listener = .absent → listener = .absent) ∧
      (signal.Heard → signal.raise.Heard) := by
  unfold raise
  dsimp only
  split
  · obtain ⟨_, _, same, raised, absent, heard⟩ :=
      notify_rest { signal with resolved := signal.resolved + 1 }
    exact ⟨_, _, same, fun _ => raised, absent, heard⟩
  · rename_i below
    exact ⟨_, _, rfl, fun reached => absurd reached below, id, id⟩

/-- Who begins to listen hears of a permit at once. -/
theorem listen_rest (signal : AckSignal) :
    ∃ permit listener, signal.listen =
        { signal with permit := permit, listener := listener } ∧ signal.listen.Heard ∧
      (signal.permit = true → signal.listen.Raised) := by
  unfold listen
  split
  · exact ⟨_, _, rfl, .inl rfl, fun _ => .inr rfl⟩
  · rename_i none
    exact ⟨_, _, rfl, .inr ⟨rfl, Bool.eq_false_iff.mpr none⟩, fun stored => absurd stored none⟩

end AckSignal

namespace AckQueue

variable {queue next : AckQueue} {size : Nat} {maySend : TaskId → Prop} {account : Account}

/-- Whether the entries of the queue are still pending, from the front on. -/
def pendings (queue : AckQueue) : List Bool :=
  queue.queued.map fun entry => entry.state.isPending

/-- The signal counts the resolved entries of the queue. It has a listener while the schedule waits
for it, and only then. If a full batch is ready, it is raised, unless the schedule needs no
wake-up. -/
structure Alarmed (queue : AckQueue) (size : Nat) (maySend : TaskId → Prop) : Prop where
  threshold : queue.signal.threshold = size
  counted : queue.signal.resolved = queue.pendings.count false
  listener : ¬ queue.schedule.Listens → queue.signal.listener = .absent
  heard : queue.schedule.Listens → queue.signal.Heard
  alert : size ≤ queue.signal.resolved → queue.pendings.head? = some false →
    queue.signal.Raised ∨ queue.schedule.Excused maySend

/-! ### Entries -/

/-- The one pending entry of an offset is resolved. -/
theorem count_pendings_changeAt {entries : List AckEntry} {offset : Int} (verdict : Verdict)
    (sorted : (entries.map AckEntry.offset).Pairwise (· < ·))
    (pending : AckEntry.stateAt? offset entries = some .pending) :
    ((AckEntry.changeAt offset (·.resolve verdict) entries).map fun entry =>
        entry.state.isPending).count false =
      (entries.map fun entry => entry.state.isPending).count false + 1 := by
  induction entries with
  | nil => exact nomatch pending
  | cons first rest ih =>
      rw [List.map_cons, List.pairwise_cons] at sorted
      unfold AckEntry.stateAt? at pending
      by_cases here : first.offset = offset
      · have waits : first.state = .pending := by
          rw [List.find?_cons_of_pos (by simpa using here)] at pending
          exact Option.some.inj pending
        -- No later entry has the offset.
        have others : AckEntry.changeAt offset (·.resolve verdict) rest = rest := by
          refine (List.map_congr_left fun entry member => if_neg ?_).trans (List.map_id rest)
          exact Int.ne_of_gt (here ▸ sorted.1 entry.offset (List.mem_map_of_mem member))
        have resolved : (first.resolve verdict).state.isPending = false := by
          simp only [AckEntry.resolve, waits, AckState.isPending, if_true]
          cases verdict <;> rfl
        have changed : AckEntry.changeAt offset (·.resolve verdict) (first :: rest) =
            first.resolve verdict :: rest := by
          unfold AckEntry.changeAt at others ⊢
          rw [List.map_cons, others, if_pos here]
        rw [changed, List.map_cons, List.map_cons, resolved, waits]
        simp [AckState.isPending]
      · rw [List.find?_cons_of_neg (by simpa using here)] at pending
        have changed : AckEntry.changeAt offset (·.resolve verdict) (first :: rest) =
            first :: AckEntry.changeAt offset (·.resolve verdict) rest := by
          simp only [AckEntry.changeAt, List.map_cons, if_neg here]
        rw [changed, List.map_cons, List.map_cons, List.count_cons, List.count_cons,
          ih sorted.2 pending]
        omega

/-- What is pending is queued. -/
theorem Ordered.stateAt?_queued (ordered : queue.Ordered) {offset : Int}
    (pending : queue.stateOf? offset = some .pending) :
    AckEntry.stateAt? offset queue.queued = some .pending := by
  rw [stateOf?, registered, AckEntry.stateAt?_append] at pending
  cases found : AckEntry.stateAt? offset queue.settled with
  | none =>
      rw [found, Option.none_or] at pending
      exact pending
  | some state =>
      obtain ⟨entry, finds, same⟩ := Option.map_eq_some_iff.mp found
      have completed := ordered.completed entry (List.mem_of_find?_eq_some finds)
      rw [found, Option.some_or, ← same, completed] at pending
      cases pending

/-- A message that is back at the broker was not pending. -/
theorem Ordered.pendings_markReturned (ordered : queue.Ordered) {offset : Int} {message : Message}
    (rejected : queue.stateOf? offset = some (.needRetry message)) :
    (queue.changeEntry offset AckEntry.markReturned).pendings = queue.pendings := by
  change (AckEntry.changeAt offset AckEntry.markReturned queue.queued).map _ = _
  unfold AckEntry.changeAt
  rw [List.map_map]
  refine List.map_congr_left fun entry member => ?_
  simp only [Function.comp]
  split
  · rename_i here
    have found := ordered.stateOf?_of_mem (List.mem_append_right _ member)
    rw [here, rejected] at found
    rw [← Option.some.inj found]
    rfl
  · rfl

/-- What is acknowledged was resolved. -/
theorem Sound.pendings_settle (sound : queue.Sound) {task : TaskId} {ready : List Int}
    (acking : queue.flushes.get? task = some (.acking ready)) :
    queue.pendings = List.replicate ready.length false ++
      (queue.settle ready.length (ready.getLastD 0)).pendings := by
  obtain ⟨_, front, completed⟩ := sound.fits task _ acking
  have taken : queue.pendings.take ready.length = List.replicate ready.length false := by
    rw [pendings, ← List.map_take, List.eq_replicate_iff]
    have offsets : (queue.queued.take ready.length).map AckEntry.offset = ready := by
      rw [List.map_take, ← List.prefix_iff_eq_take.mp front]
    constructor
    · rw [List.length_map, ← List.length_map AckEntry.offset, offsets]
    · intro pending member
      obtain ⟨entry, taken, rfl⟩ := List.mem_map.mp member
      have listed : entry.offset ∈ ready := by
        rw [← offsets]
        exact List.mem_map_of_mem taken
      have found := sound.ordered.stateOf?_of_mem
        (List.mem_append_right _ (List.mem_of_mem_take taken))
      rw [completed entry.offset listed] at found
      rw [← Option.some.inj found]
      rfl
  have left : (queue.settle ready.length (ready.getLastD 0)).pendings =
      queue.pendings.drop ready.length := List.map_drop
  rw [left, ← taken, List.take_append_drop]

/-! ### Moves -/

namespace Alarmed

/-- A fresh queue is alarmed: no entry has been resolved, and nobody listens. -/
theorem ofAssignment (assignment : Assignment) (settings : Settings) :
    (AckQueue.ofAssignment assignment settings).Alarmed (max settings.ackBatchSize.toNat 1)
      maySend where
  threshold := rfl
  counted := rfl
  listener _ := rfl
  heard := False.elim
  alert _ ready := nomatch ready

/-- Whether a queue is alarmed depends on its signal, its schedule and on which entries are
pending. -/
theorem of_same (alarmed : queue.Alarmed size maySend) (signal : next.signal = queue.signal)
    (schedule : next.schedule = queue.schedule) (pendings : next.pendings = queue.pendings) :
    next.Alarmed size maySend := by
  constructor
  · rw [signal]
    exact alarmed.threshold
  · rw [signal, pendings]
    exact alarmed.counted
  · rw [signal, schedule]
    exact alarmed.listener
  · rw [signal, schedule]
    exact alarmed.heard
  · rw [signal, schedule, pendings]
    exact alarmed.alert

/-- A registration keeps a queue alarmed: a new entry is pending and is not counted. -/
theorem register (alarmed : queue.Alarmed size maySend) (message : Message) :
    (queue.register message).1.Alarmed size maySend := by
  unfold AckQueue.register
  split
  · exact alarmed
  · rename_i offset admits
    have appended : (queue.append offset).pendings = queue.pendings ++ [true] := List.map_append
    refine ⟨alarmed.threshold, ?_, alarmed.listener, alarmed.heard, fun reached ready => ?_⟩
    · rw [appended, List.count_append]
      exact alarmed.counted
    · refine alarmed.alert reached ?_
      rw [appended] at ready
      cases front : queue.pendings with
      | nil =>
          rw [front] at ready
          exact nomatch ready
      | cons first rest =>
          rw [front] at ready
          exact ready

/-- A resolution that completes a batch raises the signal. -/
theorem resolve (alarmed : queue.Alarmed size maySend) (ordered : queue.Ordered) (offset : Int)
    (verdict : Verdict) : (queue.resolve offset verdict).1.Alarmed size maySend := by
  unfold AckQueue.resolve
  split
  · rename_i pending
    obtain ⟨permit, listener, same, raised, absent, heard⟩ := queue.signal.raise_rest
    have counted : ((queue.changeEntry offset (·.resolve verdict)).pendings).count false =
        queue.pendings.count false + 1 :=
      count_pendings_changeAt verdict ordered.sorted_queued (ordered.stateAt?_queued pending)
    refine ⟨?_, ?_, fun deaf => ?_, fun listens => heard (alarmed.heard listens),
      fun reached _ => .inl ?_⟩
    · change queue.signal.raise.threshold = size
      rw [same]
      exact alarmed.threshold
    · change queue.signal.raise.resolved =
        ((queue.changeEntry offset (·.resolve verdict)).pendings).count false
      rw [same, counted, ← alarmed.counted]
    · change queue.signal.raise.listener = .absent
      rw [same]
      exact absent (alarmed.listener deaf)
    · have enough : size ≤ queue.signal.raise.resolved := reached
      rw [same, ← alarmed.threshold] at enough
      exact raised enough
  · exact alarmed

/-- What is acknowledged was resolved, so that a batch that is left was one before. -/
theorem accepted (alarmed : queue.Alarmed size maySend) (sound : queue.Sound) {task : TaskId}
    {ready : List Int} (acking : queue.flushes.get? task = some (.acking ready)) :
    ((queue.settle ready.length (ready.getLastD 0)).endRound task).1.Alarmed size maySend := by
  obtain ⟨nonempty, _, _⟩ := sound.fits task _ acking
  obtain ⟨_, _, same⟩ := (queue.settle ready.length (ready.getLastD 0)).endRound_rest task
  have split := sound.pendings_settle acking
  have settled : (queue.settle ready.length (ready.getLastD 0)).Alarmed size maySend := by
    refine ⟨alarmed.threshold, ?_, alarmed.listener, alarmed.heard,
      fun reached _ => alarmed.alert ?_ ?_⟩
    · have counted := alarmed.counted
      rw [split, List.count_append, List.count_replicate_self] at counted
      change queue.signal.resolved - ready.length = _
      rw [counted, Nat.add_sub_cancel_left]
    · exact Nat.le_trans reached (Nat.sub_le _ _)
    · cases ready with
      | nil => exact absurd rfl nonempty
      | cons first more =>
          rw [split]
          rfl
  rw [same]
  exact settled.of_same rfl rfl rfl

/-- What a flush sends concerns the signal only when it is accepted. -/
theorem transmission (alarmed : queue.Alarmed size maySend) {task : TaskId} {done rest : List Int}
    (sent : Transmission queue task done rest account next) : next.Alarmed size maySend := by
  obtain ⟨_, same⟩ := sent.rest
  rw [same]
  exact alarmed.of_same rfl rfl rfl

/-- The end of a flush keeps a queue alarmed. -/
theorem closeFlush (alarmed : queue.Alarmed size maySend) (task : TaskId) :
    (queue.closeFlush task).1.Alarmed size maySend := by
  obtain ⟨_, _, same⟩ := queue.closeFlush_rest task
  rw [same]
  exact alarmed.of_same rfl rfl rfl

/-- The opening of a flush keeps a queue alarmed. -/
theorem openFlush (alarmed : queue.Alarmed size maySend) (task : TaskId) :
    (queue.openFlush task).Alarmed size maySend :=
  alarmed.of_same rfl rfl rfl

/-! ### The schedule -/

variable {other : TaskId → Prop}

/-- Which flushes may send what is resolved matters only while the schedule awaits one. -/
theorem excuse (alarmed : queue.Alarmed size maySend)
    (carried : ∀ failures flush, queue.schedule = .flushing failures flush →
      queue.pendings.head? = some false → maySend flush → other flush) :
    queue.Alarmed size other where
  threshold := alarmed.threshold
  counted := alarmed.counted
  listener := alarmed.listener
  heard := alarmed.heard
  alert reached ready := by
    refine (alarmed.alert reached ready).imp_right fun excused => ?_
    cases schedule : queue.schedule with
    | flushing failures flush =>
        rw [schedule] at excused
        exact carried failures flush schedule ready excused
    | entering failures =>
        rw [schedule] at excused
        cases failures <;> exact excused
    | absent | idle | backingOff | stopped =>
        rw [schedule] at excused
        exact excused

/-- While it listens to nothing, an unheard signal is a stored permit. -/
theorem permit (alarmed : queue.Alarmed size maySend) (deaf : ¬ queue.schedule.Listens)
    (raised : queue.signal.Raised) : queue.signal.permit = true := by
  refine raised.resolve_right fun notified => ?_
  rw [alarmed.listener deaf] at notified
  exact nomatch notified

/-- A queue stays alarmed when its schedule starts: a full batch has raised the signal before. -/
theorem startSchedule (alarmed : queue.Alarmed size maySend) (unstarted : queue.isStarted = false)
    (task : TaskId) : (queue.startSchedule task).Alarmed size maySend := by
  have absent : queue.schedule = .absent := by
    simp only [isStarted, Bool.or_eq_false_iff, bne_eq_false_iff_eq] at unstarted
    exact unstarted.1
  refine ⟨alarmed.threshold, alarmed.counted, fun _ => ?_, nofun, fun reached ready => ?_⟩
  · exact alarmed.listener (by rw [absent]; exact id)
  · have alert := alarmed.alert reached ready
    rw [absent] at alert
    exact .inl (alert.resolve_right id)

/-- A queue stays alarmed when its schedule is stopped, which needs no wake-up any more. -/
theorem stopSchedule (alarmed : queue.Alarmed size maySend) :
    queue.stopSchedule.Alarmed size maySend := by
  unfold AckQueue.stopSchedule
  split
  · exact alarmed
  · exact ⟨alarmed.threshold, alarmed.counted, fun _ => rfl, nofun, fun _ _ => .inr trivial⟩

/-- A schedule that begins to listen hears of a permit at once. -/
theorem enterWait (alarmed : queue.Alarmed size maySend) (now draw : Nat) :
    (queue.enterWait now draw).Alarmed size maySend := by
  unfold AckQueue.enterWait
  split
  · rename_i entering
    have deaf : ¬ queue.schedule.Listens := by
      rw [entering]
      exact id
    obtain ⟨permit, listener, same, heard, raised⟩ := queue.signal.listen_rest
    refine ⟨?_, ?_, fun deaf => absurd trivial deaf, fun _ => heard,
      fun reached ready => .inl (raised ?_)⟩
    · change queue.signal.listen.threshold = size
      rw [same]
      exact alarmed.threshold
    · change queue.signal.listen.resolved = queue.pendings.count false
      rw [same]
      exact alarmed.counted
    · have enough : size ≤ queue.signal.listen.resolved := reached
      rw [same] at enough
      have alert := alarmed.alert enough ready
      rw [entering] at alert
      exact alarmed.permit deaf (alert.resolve_right id)
  · rename_i failures entering
    refine ⟨alarmed.threshold, alarmed.counted, fun _ => ?_, nofun, fun _ _ => .inr trivial⟩
    exact alarmed.listener (by rw [entering]; exact id)
  · exact alarmed

/-- After a flush without failure the schedule relies on the signal, so that the flush must have
left no batch unnoticed. -/
theorem noteFlush (alarmed : queue.Alarmed size maySend) {failures : Nat} {flush : TaskId}
    (flushing : queue.schedule = .flushing failures flush) (ended : FlushEnd)
    (finished : (queue.noteFlush failures ended).1.schedule = .entering 0 → ¬ maySend flush) :
    (queue.noteFlush failures ended).1.Alarmed size maySend := by
  have absent := alarmed.listener (by rw [flushing]; exact id)
  have fails : ∀ count, ({ queue with schedule := .entering (count + 1) } : AckQueue).Alarmed size
      maySend :=
    fun count =>
      ⟨alarmed.threshold, alarmed.counted, fun _ => absent, nofun, fun _ _ => .inr trivial⟩
  have relies : ¬ maySend flush → ({ queue with schedule := .entering 0 } : AckQueue).Alarmed size
      maySend := by
    intro finished
    refine ⟨alarmed.threshold, alarmed.counted, fun _ => absent, nofun,
      fun reached ready => .inl ?_⟩
    have alert := alarmed.alert reached ready
    rw [flushing] at alert
    exact alert.resolve_right finished
  cases ended with
  | panicked text => exact fails failures
  | outcome outcome =>
      cases outcome with
      | failed entries => exact fails failures
      | drained | outstanding | timedOut => exact relies (finished rfl)

/-- The schedule and the teardown miss no batch, if the flush that is noted left none and the one
that is launched may send what is resolved. -/
theorem background (alarmed : queue.Alarmed size maySend) (changed : queue.Background next)
    (noted : ∀ failures flush, queue.schedule = .flushing failures flush →
      next.schedule = .entering 0 → ¬ maySend flush)
    (launched : queue.schedule ≠ next.schedule →
      ∀ failures flush, next.schedule = .flushing failures flush → maySend flush) :
    next.Alarmed size maySend := by
  cases changed with
  | start task unstarted => exact alarmed.startSchedule unstarted task
  | enter now draw => exact alarmed.enterWait now draw
  | hear due flush idle notified | elapse due flush idle =>
      have sends := launched (by rw [idle]; exact nofun) 0 flush rfl
      exact ⟨alarmed.threshold, alarmed.counted, fun _ => rfl, nofun, fun _ _ => .inr sends⟩
  | retry failures due flush backingOff =>
      have sends := launched (by rw [backingOff]; exact nofun) failures flush rfl
      refine ⟨alarmed.threshold, alarmed.counted, fun _ => ?_, nofun, fun _ _ => .inr sends⟩
      exact alarmed.listener (by rw [backingOff]; exact id)
  | note failures flush ended flushing =>
      exact alarmed.noteFlush flushing ended (noted failures flush flushing)
  | stop => exact alarmed.stopSchedule
  | destroy =>
      have destroyed : ({ queue with destroyed := true } : AckQueue).Alarmed size maySend :=
        alarmed.of_same rfl rfl rfl
      exact destroyed.stopSchedule

/-- A move that leaves the schedule as it is misses no batch. -/
theorem move (alarmed : queue.Alarmed size maySend) (sound : queue.Sound)
    (move : queue.Move account next) (schedule : next.schedule = queue.schedule) :
    next.Alarmed size maySend := by
  cases move with
  | register message => exact alarmed.register message
  | resolve offset verdict => exact alarmed.resolve sound.ordered offset verdict
  | background changed =>
      refine alarmed.background changed (fun failures flush flushing entering => ?_) fun moved => ?_
      · rw [schedule, flushing] at entering
        exact nomatch entering
      · exact absurd schedule.symm moved
  | requestLock task fresh =>
      obtain ⟨_, _, same⟩ := requestLock_rest fresh
      rw [same]
      exact alarmed.of_same rfl rfl rfl
  | startRound task granted some sent => exact alarmed.transmission sent
  | returned task done current rest message returning sent =>
      obtain ⟨_, _, rejected, _⟩ := sound.fits task _ returning
      have marked : (queue.changeEntry current AckEntry.markReturned).Alarmed size maySend :=
        alarmed.of_same rfl rfl (sound.ordered.pendings_markReturned rejected)
      exact marked.transmission sent
  | cut task done current rest message fault returning nonempty =>
      exact alarmed.of_same rfl rfl rfl
  | accepted task ready acking => exact alarmed.accepted sound acking
  | broken task answer awaits unaccepted => exact alarmed.closeFlush task
  | leave task => exact alarmed.closeFlush task

/-- The signal counts the queued entries that are not pending. -/
theorem resolved (alarmed : queue.Alarmed size maySend) :
    queue.signal.resolved = queue.queued.countP fun entry => !entry.state.isPending := by
  rw [alarmed.counted, pendings, List.count, List.countP_map]
  refine List.countP_congr fun entry _ => ?_
  simp only [Function.comp, beq_false]

/-- Where the schedule waits for the signal and no wake-up is being delivered, no full batch is
ready. -/
theorem unnotified (alarmed : queue.Alarmed size maySend) {due : Nat}
    (idle : queue.schedule = .idle due) (unnotified : queue.signal.listener ≠ .notified) :
    queue.queued.countP (fun entry => !entry.state.isPending) < size ∨ queue.queued = [] ∨
      ∃ first rest, queue.queued = first :: rest ∧ first.state = .pending := by
  have unraised : ¬ queue.signal.Raised := by
    obtain ⟨_, none⟩ := (alarmed.heard (by rw [idle]; trivial)).resolve_left unnotified
    rintro (stored | notified)
    · exact Bool.false_ne_true (none.symm.trans stored)
    · exact unnotified notified
  rw [← alarmed.resolved]
  by_cases reached : size ≤ queue.signal.resolved
  · right
    cases queued : queue.queued with
    | nil => exact .inl rfl
    | cons first rest =>
        refine .inr ⟨first, rest, rfl, ?_⟩
        have front : queue.pendings.head? = some first.state.isPending := by
          rw [pendings, queued]
          rfl
        cases state : first.state with
        | pending => rfl
        | completed | needRetry =>
            rw [state] at front
            have alert := alarmed.alert reached front
            rw [idle] at alert
            exact absurd (alert.resolve_right id) unraised
  · exact .inl (Nat.lt_of_not_le reached)

end Alarmed

/-- Without offsets to send the first entry is not resolved. -/
theorem head?_pendings_of_readyOffsets (none : queue.readyOffsets = []) :
    queue.pendings.head? ≠ some false := by
  unfold readyOffsets at none
  unfold pendings
  cases queued : queue.queued with
  | nil => exact nofun
  | cons first rest =>
      rw [queued, List.takeWhile_cons] at none
      split at none
      · exact nomatch none
      · rename_i pending
        simpa using pending

end AckQueue

end PullConsumer
