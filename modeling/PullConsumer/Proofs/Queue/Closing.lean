import PullConsumer.Proofs.Queue.FlushSteps
import PullConsumer.Proofs.Queue.Tiling

/-! # Closed queues

A closed queue takes no message in and only loses entries from its front (`AckQueue.Move.dwindles`),
and its schedule launches no flush (`AckQueue.Shut`). Once it is empty, or no flush of it is left,
no move of it makes a call or changes what is queued (`AckQueue.Spent.move`). As long as a flush is
left and something is queued, there is a way to a call or to an acknowledgment
(`AckQueue.Sound.transmits`).
-/

namespace PullConsumer.AckQueue

/-- The schedule of a closed queue was never started or is stopped. -/
def Shut (queue : AckQueue) : Prop :=
  queue.destroyed = true → queue.schedule = .absent ∨ queue.schedule = .stopped

variable {queue next : AckQueue} {account : Account}

/-- A fresh queue is not closed, so that its schedule may run. -/
theorem shut_ofAssignment (assignment : Assignment) (settings : Settings) :
    (AckQueue.ofAssignment assignment settings).Shut :=
  fun destroyed => absurd destroyed Bool.false_ne_true

/-- A schedule that is stopped was never started, or it is stopped for good. -/
theorem stopSchedule_shut (queue : AckQueue) :
    queue.stopSchedule.schedule = .absent ∨ queue.stopSchedule.schedule = .stopped := by
  unfold stopSchedule
  split
  · rename_i absent
    exact .inl absent
  · exact .inr rfl

/-- What the schedule of a closed queue does leaves it closed. -/
theorem Shut.background (shut : queue.Shut) (changed : Background queue next) : next.Shut := by
  -- A schedule that waits or flushes belongs to a queue that is not closed.
  have waiting : ∀ {schedule}, queue.schedule = schedule → schedule ≠ .absent →
      schedule ≠ .stopped → ¬ queue.destroyed = true := by
    rintro schedule rfl first second destroyed
    rcases shut destroyed with absent | stopped
    · exact first absent
    · exact second stopped
  cases changed with
  | start task unstarted =>
      intro destroyed
      have closed : queue.destroyed = true := destroyed
      rw [isStarted, closed, Bool.or_true] at unstarted
      exact nomatch unstarted
  | enter now draw =>
      unfold enterWait
      split
      · rename_i entering
        exact fun destroyed => absurd destroyed (waiting entering nofun nofun)
      · rename_i entering
        exact fun destroyed => absurd destroyed (waiting entering nofun nofun)
      · exact shut
  | hear due flush idle notified =>
      exact fun destroyed => absurd destroyed (waiting idle nofun nofun)
  | elapse due flush idle =>
      exact fun destroyed => absurd destroyed (waiting idle nofun nofun)
  | retry failures due flush backingOff =>
      exact fun destroyed => absurd destroyed (waiting backingOff nofun nofun)
  | note failures flush ended flushing =>
      obtain ⟨_, same, _⟩ := queue.noteFlush_rest failures ended
      intro destroyed
      rw [same] at destroyed
      exact absurd destroyed (waiting flushing nofun nofun)
  | stop => exact fun _ => queue.stopSchedule_shut
  | destroy => exact fun _ => stopSchedule_shut _

namespace Shut

/-- No move of a queue starts the schedule of a closed queue again. -/
theorem move (shut : queue.Shut) (move : Move queue account next) : next.Shut := by
  rcases move.rest with changed | ⟨_, _, _, _, _, _, rfl⟩
  · exact shut.background changed
  · exact shut

/-- A queue that is closed never starts its schedule again. -/
theorem stride (shut : queue.Shut) (stride : queue.Stride account next) : next.Shut :=
  stride.preserves (fun move still => Shut.move still move) (fun _ still => still) shut

/-- The schedule of a closed queue waits for no time. -/
theorem scheduleDue? (shut : queue.Shut) (destroyed : queue.destroyed = true) :
    queue.scheduleDue? = none := by
  unfold AckQueue.scheduleDue?
  rcases shut destroyed with absent | stopped
  · rw [absent]
  · rw [stopped]

end Shut

/-! ### The mark of the teardown -/

/-- The schedule does not open a closed queue. -/
theorem Background.destroyed (changed : Background queue next)
    (destroyed : queue.destroyed = true) : next.destroyed = true := by
  cases changed with
  | start task unstarted => exact destroyed
  | enter now draw =>
      unfold enterWait
      split <;> exact destroyed
  | hear | elapse | retry => exact destroyed
  | note failures flush ended flushing =>
      obtain ⟨_, same, _⟩ := queue.noteFlush_rest failures ended
      rw [same]
      exact destroyed
  | stop =>
      unfold stopSchedule
      split <;> exact destroyed
  | destroy =>
      unfold stopSchedule
      split <;> rfl

/-- A closed queue stays closed in every move. -/
theorem Move.destroyed (move : Move queue account next) (destroyed : queue.destroyed = true) :
    next.destroyed = true := by
  rcases move.rest with changed | ⟨_, _, _, _, _, _, rfl⟩
  · exact changed.destroyed destroyed
  · exact destroyed

/-- A closed queue stays closed in every stride. -/
theorem Stride.destroyed (stride : Stride queue account next)
    (destroyed : queue.destroyed = true) : next.destroyed = true :=
  stride.preserves (motive := (·.destroyed = true)) Move.destroyed (fun _ still => still) destroyed

/-! ### What a closed queue loses -/

/-- A closed queue refuses every message and stays as it is. -/
theorem register_of_destroyed (destroyed : queue.destroyed = true) (message : Message) :
    queue.register message = (queue, .error .entryDestroyed) := by
  simp only [register, admits, destroyed, if_true]

/-- No message of a batch gets past a closed queue. -/
theorem receive_of_destroyed (destroyed : queue.destroyed = true) (subject : String)
    (accepts : Message → Bool) (messages : List Message) :
    (queue.receive subject accepts messages).accepted = [] := by
  have refused : ∀ message, queue.admits message = .error .entryDestroyed := fun message => by
    simp only [admits, destroyed, if_true]
  induction messages with
  | nil => rfl
  | cons message rest ih =>
      rw [receive, refused message]
      exact ih

/-- A queue stays closed: nothing is registered any more, and entries leave it at its front only. -/
structure Dwindles (queue next : AckQueue) : Prop where
  destroyed : next.destroyed = true
  top : next.window.max = queue.window.max
  registered : next.registered.map AckEntry.offset = queue.registered.map AckEntry.offset
  queued : next.queued.map AckEntry.offset <:+ queue.queued.map AckEntry.offset

namespace Dwindles

theorem refl (destroyed : queue.destroyed = true) : queue.Dwindles queue :=
  ⟨destroyed, rfl, rfl, List.suffix_rfl⟩

theorem trans {middle : AckQueue} (first : queue.Dwindles middle) (second : middle.Dwindles next) :
    queue.Dwindles next where
  destroyed := second.destroyed
  top := second.top.trans first.top
  registered := second.registered.trans first.registered
  queued := second.queued.trans first.queued

theorem of_same (destroyed : next.destroyed = true) (window : next.window = queue.window)
    (settled : next.settled = queue.settled) (queued : next.queued = queue.queued) :
    queue.Dwindles next where
  destroyed := destroyed
  top := congrArg AckWindow.max window
  registered := congrArg _ (registered_congr settled queued)
  queued := queued ▸ List.suffix_rfl

end Dwindles

/-- **A closed queue dwindles.** No move of it registers anything. -/
theorem Move.dwindles (move : Move queue account next) (destroyed : queue.destroyed = true) :
    queue.Dwindles next := by
  have still := move.destroyed destroyed
  cases move.revises with
  | kept settled queued window => exact .of_same still window settled queued
  | registers message same =>
      rw [same, register_of_destroyed destroyed message]
      exact .refl destroyed
  | resolves offset verdict same =>
      subst same
      refine ⟨still, ?_, queue.map_offset_registered_resolve offset verdict, ?_⟩
      · obtain ⟨_, _, _, same, _⟩ := queue.resolve_rest offset verdict
        rw [same]
      · exact ⟨[], queue.map_offset_queued_resolve offset verdict⟩
  | returns offset settled queued window =>
      refine ⟨still, congrArg AckWindow.max window, ?_, ?_⟩
      · rw [registered_congr settled queued]
        exact queue.map_offset_registered_changeEntry offset _ fun _ => rfl
      · have offsets := AckEntry.map_offset_changeAt offset AckEntry.markReturned (fun _ => rfl)
          queue.queued
        exact ⟨[], (congrArg _ queued).trans offsets⟩
  | settles entries last settled queued window =>
      refine ⟨still, (congrArg AckWindow.max window).trans rfl, ?_, ?_⟩
      · rw [registered_congr settled queued, registered_settle]
      · rw [queued]
        exact (List.drop_suffix entries queue.queued).map AckEntry.offset

/-- A closed queue dwindles in every stride. -/
theorem Stride.dwindles (stride : Stride queue account next)
    (destroyed : queue.destroyed = true) : queue.Dwindles next :=
  stride.preserves (fun move dwindles => dwindles.trans (move.dwindles dwindles.destroyed))
    (fun _ dwindles => ⟨dwindles.destroyed, dwindles.top, dwindles.registered, dwindles.queued⟩)
    (.refl destroyed)

/-! ### What a spent queue does -/

/-- A closed queue that is empty or has no flush left. -/
structure Spent (queue : AckQueue) : Prop where
  destroyed : queue.destroyed = true
  sound : queue.Sound
  ended : queue.queued = [] ∨ ∀ task, queue.flushes.get? task = none

/-- No call is made, and the queued offsets and the window stay. -/
structure KeepsQueued (queue : AckQueue) (account : Account) (next : AckQueue) : Prop where
  calls : ∀ task call, Mark.called task call ∉ account
  queued : next.queued.map AckEntry.offset = queue.queued.map AckEntry.offset
  window : next.window = queue.window

namespace KeepsQueued

theorem refl (queue : AckQueue) : queue.KeepsQueued [] queue :=
  ⟨fun _ _ => List.not_mem_nil, rfl, rfl⟩

theorem trans {middle : AckQueue} {first second : Account} (start : queue.KeepsQueued first middle)
    (rest : middle.KeepsQueued second next) : queue.KeepsQueued (first ++ second) next where
  calls task call member := by
    rcases List.mem_append.mp member with earlier | later
    · exact start.calls task call earlier
    · exact rest.calls task call later
  queued := rest.queued.trans start.queued
  window := rest.window.trans start.window

/-- The end of a flush keeps what is queued. -/
theorem closeFlush (queue : AckQueue) (task : TaskId)
    (calls : ∀ other call, Mark.called other call ∉ account) :
    queue.KeepsQueued account (queue.closeFlush task).1 := by
  obtain ⟨_, _, same⟩ := queue.closeFlush_rest task
  rw [same]
  exact ⟨calls, rfl, rfl⟩

end KeepsQueued

namespace Spent

/-- No flush of a spent queue waits for an answer. -/
theorem not_sending (spent : queue.Spent) {task : TaskId} {phase : FlushPhase}
    (here : queue.flushes.get? task = some phase) : phase.isSending = false := by
  rcases spent.ended with empty | idle
  · have fits := spent.sound.fits task phase here
    cases phase with
    | fresh | inLine | granted => rfl
    | returning done current rest message =>
        have front := fits.1
        rw [empty, List.map_nil, List.prefix_nil] at front
        exact absurd front (List.append_ne_nil_of_right_ne_nil done (List.cons_ne_nil current rest))
    | acking ready =>
        have front := fits.2.1
        rw [empty, List.map_nil, List.prefix_nil] at front
        exact absurd front fits.1
  · exact absurd (here.symm.trans (idle task)) (Option.some_ne_none phase)

/-- A flush of a spent queue has nothing to send. -/
theorem readyOffsets (spent : queue.Spent) {task : TaskId} {phase : FlushPhase}
    (here : queue.flushes.get? task = some phase) : queue.readyOffsets = [] := by
  rcases spent.ended with empty | idle
  · rw [AckQueue.readyOffsets, empty]
    rfl
  · exact absurd (here.symm.trans (idle task)) (Option.some_ne_none phase)

/-- A spent queue stays spent if its flushes stay or become fewer. -/
theorem of_rests (spent : queue.Spent) (rests : queue.KeepsQueued account next)
    (destroyed : next.destroyed = true) (sound : next.Sound)
    (flushes : (∀ task, queue.flushes.get? task = none) → ∀ task, next.flushes.get? task = none) :
    next.Spent := by
  refine ⟨destroyed, sound, ?_⟩
  rcases spent.ended with empty | idle
  · have none := rests.queued
    rw [empty, List.map_nil, List.map_eq_nil_iff] at none
    exact .inl none
  · exact .inr (flushes idle)

/-- A queue without flushes stays so when one is closed. -/
theorem closeFlush_idle (spent : queue.Spent) (task : TaskId)
    (idle : ∀ task, queue.flushes.get? task = none) (other : TaskId) :
    (queue.closeFlush task).1.flushes.get? other = none := by
  have runs := spent.sound.turns.isSome_closeFlush task other
  rw [idle other] at runs
  rw [← Option.not_isSome_iff_eq_none, runs]
  exact fun both => Bool.false_ne_true both.2

/-- **A spent queue rests.** No move of it makes a call or changes what is queued. -/
theorem move (spent : queue.Spent) (move : Move queue account next) :
    queue.KeepsQueued account next ∧ next.Spent := by
  have sound := spent.sound.move move
  have together : queue.KeepsQueued account next →
      ((∀ task, queue.flushes.get? task = none) → ∀ task, next.flushes.get? task = none) →
      queue.KeepsQueued account next ∧ next.Spent :=
    fun rests flushes =>
      ⟨rests, spent.of_rests rests (move.destroyed spent.destroyed) sound flushes⟩
  cases move with
  | register message =>
      rw [register_of_destroyed spent.destroyed message] at together ⊢
      refine together ⟨fun task call member => ?_, rfl, rfl⟩ id
      exact nomatch List.mem_singleton.mp member
  | resolve offset verdict =>
      have queued := queue.map_offset_queued_resolve offset verdict
      obtain ⟨_, _, _, same, _⟩ := queue.resolve_rest offset verdict
      rw [same] at queued together ⊢
      exact together ⟨fun _ _ => List.not_mem_nil, queued, rfl⟩ id
  | background changed =>
      obtain ⟨_, _, _, _, rfl⟩ := changed.rest
      exact together ⟨fun _ _ => List.not_mem_nil, rfl, rfl⟩ id
  | requestLock task fresh =>
      obtain ⟨_, _, same⟩ := requestLock_rest fresh
      refine together ?_ fun idle => ?_
      · rw [same]
        exact ⟨fun _ _ => List.not_mem_nil, rfl, rfl⟩
      · exact absurd (fresh.symm.trans (idle task)) (Option.some_ne_none _)
  | startRound task granted some sent => exact absurd (spent.readyOffsets granted) some
  | returned task done current rest message returning sent =>
      exact absurd (spent.not_sending returning) Bool.noConfusion
  | cut task done current rest message fault returning nonempty =>
      exact absurd (spent.not_sending returning) Bool.noConfusion
  | accepted task ready acking =>
      exact absurd (spent.not_sending acking) Bool.noConfusion
  | broken task answer awaits unaccepted =>
      obtain ⟨phase, call, here, calls⟩ := exists_callOf?_of_awaitsAnswer awaits
      have sending := isSending_of_callOf? calls
      rw [spent.not_sending here] at sending
      exact nomatch sending
  | leave task =>
      exact together (.closeFlush queue task fun _ _ => List.not_mem_nil)
        (spent.closeFlush_idle task)

/-- A spent queue stays spent in any number of moves, and keeps what is queued. -/
theorem moves (spent : queue.Spent) (moves : queue.Moves account next) :
    queue.KeepsQueued account next ∧ next.Spent := by
  induction moves with
  | refl => exact ⟨.refl _, spent⟩
  | tail _ move ih =>
      obtain ⟨rests, still⟩ := ih
      obtain ⟨later, after⟩ := still.move move
      exact ⟨rests.trans later, after⟩

/-- A spent queue rests, also if another flush is opened. -/
theorem stride (spent : queue.Spent) (stride : queue.Stride account next) :
    queue.KeepsQueued account next := by
  cases stride with
  | move move => exact (spent.move move).1
  | silent moves silent => exact (spent.moves moves).1
  | opens moves task absent =>
      obtain ⟨calls, queued, window⟩ := (spent.moves moves).1
      exact ⟨calls, queued, window⟩

end Spent

/-! ### What a flush that is left can do -/

/-- Where the oldest entry is resolved, there is something to send. -/
theorem readyOffsets_ne_nil {first : AckEntry} {rest : List AckEntry}
    (queued : queue.queued = first :: rest) (resolved : first.state.isPending = false) :
    queue.readyOffsets ≠ [] := by
  rw [readyOffsets, queued, List.takeWhile_cons_of_pos (by simp [resolved])]
  exact nofun

/-- A verdict on the first entry makes it ready, if it was not. -/
theorem Ordered.readyOffsets_resolve (ordered : queue.Ordered) {first : AckEntry}
    {rest : List AckEntry} (queued : queue.queued = first :: rest) :
    (queue.resolve first.offset .complete).1.readyOffsets ≠ [] := by
  have listed : first ∈ queue.registered := by
    refine List.mem_append_right _ ?_
    rw [queued]
    exact List.mem_cons_self
  have state := ordered.stateOf?_of_mem listed
  by_cases pending : first.state = .pending
  · rw [pending] at state
    have changed : (queue.resolve first.offset .complete).1.queued =
        first.resolve .complete :: AckEntry.changeAt first.offset (·.resolve .complete) rest := by
      simp only [AckQueue.resolve, state, if_true, AckQueue.changeEntry, queued, AckEntry.changeAt,
        List.map_cons]
    refine readyOffsets_ne_nil changed ?_
    simp only [AckEntry.resolve, pending, AckState.isPending, if_true, Verdict.state]
  · have same : queue.resolve first.offset .complete = (queue, []) := by
      rw [resolve, state, if_neg (fun equal => pending (Option.some.inj equal))]
    rw [same]
    refine readyOffsets_ne_nil queued ?_
    cases settled : first.state with
    | pending => exact absurd settled pending
    | needRetry | completed => rfl

/-- While nobody holds the lock, every flush is about to ask for it. -/
theorem Turns.fresh_of_free (turns : queue.Turns) (free : queue.lock.holder = none) {task : TaskId}
    {phase : FlushPhase} (here : queue.flushes.get? task = some phase) : phase = .fresh := by
  have holds : phase.holdsLock = true → False := by
    intro held
    have holder := (turns.holder task).mpr ⟨phase, here, held⟩
    exact Option.some_ne_none task (holder.symm.trans free)
  cases phase with
  | fresh => rfl
  | granted | returning | acking => exact (holds rfl).elim
  | inLine =>
      have waits := (turns.line task).mpr here
      rw [turns.taken free] at waits
      exact absurd waits List.not_mem_nil

/-- A flush that asks for the free lock gets it. -/
theorem holder_proceedFlush {task : TaskId} (fresh : queue.flushes.get? task = some .fresh)
    (free : queue.lock.holder = none) :
    (queue.proceedFlush task).queue.lock.holder = some task := by
  simp only [proceedFlush, fresh, SendLock.request, free]

/-- A transmission that goes on makes a call. -/
theorem Transmission.called {task : TaskId} {done rest : List Int}
    (sent : Transmission queue task done rest account next) :
    ∃ call, Mark.called task call ∈ account := by
  cases sent with
  | sendBack passed current later message split kept nacked => exact ⟨_, List.mem_singleton_self _⟩
  | sendAck kept => exact ⟨_, List.mem_singleton_self _⟩

/-- **The holder of the lock goes on.** Where something is ready, the flush that holds the lock
calls the broker by itself or upon the next answer, or that answer takes entries off the queue. -/
theorem Sound.transmits (sound : queue.Sound) {task : TaskId}
    (holds : queue.lock.holder = some task) (ready : queue.readyOffsets ≠ []) :
    (∃ call, Mark.called task call ∈ Account.ofEffects (queue.proceedFlush task).effects) ∨
      (∃ call, Mark.called task call ∈
        Account.ofEffects (queue.answerFlush task (.value ())).effects) ∨
      (queue.answerFlush task (.value ())).queue.queued.map AckEntry.offset ≠
        queue.queued.map AckEntry.offset := by
  obtain ⟨phase, here, held⟩ := (sound.turns.holder task).mp holds
  cases phase with
  | fresh | inLine => exact absurd held Bool.false_ne_true
  | granted =>
      left
      have sends : queue.proceedFlush task = queue.transmit task [] queue.readyOffsets := by
        simp only [proceedFlush, here]
      rw [sends]
      exact (queue.transmit_sends task [] queue.readyOffsets).1.called
  | returning done current rest message =>
      right
      left
      obtain ⟨call, member⟩ := ((queue.changeEntry current AckEntry.markReturned).transmit_sends task
        (done ++ [current]) rest).1.called
      refine ⟨call, ?_⟩
      simp only [answerFlush, here, FlushStep.after, Account.ofEffects_append]
      exact List.mem_append_right _ member
  | acking offsets =>
      right
      right
      obtain ⟨nonempty, front, _⟩ := sound.fits task _ here
      obtain ⟨_, _, same⟩ :=
        (queue.settle offsets.length (offsets.getLastD 0)).endRound_rest task
      have left : (queue.answerFlush task (.value ())).queue.queued =
          queue.queued.drop offsets.length := by
        simp only [answerFlush, here, same]
        rfl
      have some := List.length_pos_iff.mpr nonempty
      have fits := front.length_le
      rw [List.length_map] at fits
      rw [left]
      intro unchanged
      have lengths := congrArg List.length unchanged
      rw [List.length_map, List.length_map, List.length_drop] at lengths
      omega

end PullConsumer.AckQueue
