import PullConsumer.Ack.Intake
import PullConsumer.Ack.Schedule
import PullConsumer.Proofs.Queue.Account

/-! # The moves of a queue

Everything that can happen to a queue, one atomic change at a time, with the lines that it leaves in
the account (`AckQueue.Move`). What one step of a client does to a queue is a stride of moves
(`AckQueue.Stride`): at most one of them calls a collaborator, and a new flush comes last. An
invariant of all moves that the opening of a flush respects is an invariant of all operations
(`AckQueue.Stride.preserves`).
-/

namespace PullConsumer

namespace AckQueue

/-- What the schedule and the teardown of a queue do to it. No entry, no flush and no lock is
touched (`Background.rest`). -/
inductive Background (queue : AckQueue) : AckQueue → Prop
  | start (task : TaskId) (unstarted : queue.isStarted = false) :
      Background queue (queue.startSchedule task)
  | enter (now draw : Nat) : Background queue (queue.enterWait now draw)
  /-- The signal ends the wait; a flush is launched. -/
  | hear (due : Nat) (flush : TaskId) (idle : queue.schedule = .idle due)
      (notified : queue.signal.listener = .notified) :
      Background queue
        { queue with signal := queue.signal.consume, schedule := .flushing 0 flush }
  /-- The interval ends the wait; a flush is launched. -/
  | elapse (due : Nat) (flush : TaskId) (idle : queue.schedule = .idle due) :
      Background queue { queue with signal := queue.signal.leave, schedule := .flushing 0 flush }
  /-- The delay after failures ends; a flush is launched. -/
  | retry (failures due : Nat) (flush : TaskId)
      (backingOff : queue.schedule = .backingOff failures due) :
      Background queue { queue with schedule := .flushing failures flush }
  | note (failures : Nat) (flush : TaskId) (ended : FlushEnd)
      (flushing : queue.schedule = .flushing failures flush) :
      Background queue (queue.noteFlush failures ended).1
  | stop : Background queue queue.stopSchedule
  | destroy : Background queue { queue with destroyed := true }.stopSchedule

/-- What a flush sends that holds the lock, is through with the offsets `done` and has `rest` to go
through: the next message that has to be returned, or else the acknowledgment of them all. -/
inductive Transmission (queue : AckQueue) (task : TaskId) (done rest : List Int) :
    Account → AckQueue → Prop
  | sendBack (passed : List Int) (current : Int) (later : List Int) (message : Message)
      (split : rest = passed ++ current :: later)
      (kept : ∀ offset ∈ passed, ∀ other, queue.stateOf? offset ≠ some (.needRetry other))
      (nacked : queue.stateOf? current = some (.needRetry message)) :
      Transmission queue task done rest
        [.called task (.sendBack queue.assignment.brokerGroup message)]
        (queue.setPhase task (.returning (done ++ passed) current later message))
  | sendAck (kept : ∀ offset ∈ rest, ∀ other, queue.stateOf? offset ≠ some (.needRetry other)) :
      Transmission queue task done rest
        [.called task (.sendAck queue.assignment.brokerGroup (queue.ackRequest (done ++ rest)))]
        (queue.setPhase task (.acking (done ++ rest)))

/-- One atomic change of a queue, with the lines that it leaves in the account. No move opens a
flush. -/
inductive Move (queue : AckQueue) : Account → AckQueue → Prop
  | register (message : Message) :
      Move queue [.offered message (queue.register message).2] (queue.register message).1
  | resolve (offset : Int) (verdict : Verdict) : Move queue [] (queue.resolve offset verdict).1
  | background {next : AckQueue} (changed : Background queue next) : Move queue [] next
  /-- A flush asks for the send lock. -/
  | requestLock (task : TaskId) (fresh : queue.flushes.get? task = some .fresh) :
      Move queue [] (queue.proceedFlush task).queue
  /-- A flush that has just got the lock reads the front of the queue and sends. -/
  | startRound (task : TaskId) {account : Account} {next : AckQueue}
      (granted : queue.flushes.get? task = some .granted) (some : queue.readyOffsets ≠ [])
      (sent : Transmission queue task [] queue.readyOffsets account next) : Move queue account next
  /-- A message is back at the broker, and the round goes on. -/
  | returned (task : TaskId) (done : List Int) (current : Int) (rest : List Int)
      (message : Message) {account : Account} {next : AckQueue}
      (returning : queue.flushes.get? task = some (.returning done current rest message))
      (sent : Transmission (queue.changeEntry current AckEntry.markReturned) task
        (done ++ [current]) rest account next) :
      Move queue (.answered task (.value ()) :: account) next
  /-- A message could not be returned: the offsets before it are acknowledged. -/
  | cut (task : TaskId) (done : List Int) (current : Int) (rest : List Int) (message : Message)
      (fault : Fault)
      (returning : queue.flushes.get? task = some (.returning done current rest message))
      (nonempty : done ≠ []) :
      Move queue [.answered task (.failed fault),
        .called task (.sendAck queue.assignment.brokerGroup (queue.ackRequest done))]
        (queue.setPhase task (.acking done))
  /-- The broker accepted an acknowledgment. -/
  | accepted (task : TaskId) (ready : List Int)
      (acking : queue.flushes.get? task = some (.acking ready)) :
      Move queue [.answered task (.value ())]
        ((queue.settle ready.length (ready.getLastD 0)).endRound task).1
  /-- A call failed or broke down, and the flush ends. -/
  | broken (task : TaskId) (answer : Answer Unit) (awaits : queue.awaitsAnswer task = true)
      (unaccepted : answer ≠ .value ()) :
      Move queue [.answered task answer] (queue.closeFlush task).1
  /-- A flush ends by itself or is dropped. -/
  | leave (task : TaskId) : Move queue [] (queue.closeFlush task).1

/-- Any number of moves in a row. -/
inductive Moves : AckQueue → Account → AckQueue → Prop
  | refl (queue : AckQueue) : Moves queue [] queue
  | tail {before middle after : AckQueue} {account marks : Account}
      (moves : Moves before account middle) (move : Move middle marks after) :
      Moves before (account ++ marks) after

/-- What one step of a client does to a queue. -/
inductive Stride (queue : AckQueue) : Account → AckQueue → Prop
  | move {account : Account} {next : AckQueue} (move : Move queue account next) :
      Stride queue account next
  | silent {account : Account} {next : AckQueue} (moves : Moves queue account next)
      (silent : ∀ task call, Mark.called task call ∉ account) : Stride queue account next
  /-- A flush is opened after all else. -/
  | opens {middle : AckQueue} (moves : Moves queue [] middle) (task : TaskId)
      (absent : middle.flushes.get? task = none) : Stride queue [] (middle.openFlush task)

/-- A queue that does not change takes a stride without a line. -/
theorem Stride.still (queue : AckQueue) : Stride queue [] queue :=
  .silent (.refl queue) fun _ _ => List.not_mem_nil

/-- One move is a sequence of moves. -/
theorem Move.moves {before after : AckQueue} {account : Account}
    (move : Move before account after) :
    Moves before account after :=
  .tail (.refl before) move

/-- Moves may follow on moves, and their accounts follow on each other. -/
theorem Moves.trans {before middle after : AckQueue} {first second : Account}
    (start : Moves before first middle) (rest : Moves middle second after) :
    Moves before (first ++ second) after := by
  induction rest with
  | refl =>
      rw [List.append_nil]
      exact start
  | tail _ move ih =>
      rw [← List.append_assoc]
      exact ih.tail move

/-- What every move keeps is kept by a stride, if the opening of a flush leaves it alone. -/
theorem Stride.preserves {motive : AckQueue → Prop}
    (moves : ∀ {before after : AckQueue} {account : Account}, Move before account after →
      motive before → motive after)
    (opens : ∀ {middle : AckQueue} {task : TaskId}, middle.flushes.get? task = none →
      motive middle → motive (middle.openFlush task))
    {before after : AckQueue} {account : Account} (stride : Stride before account after)
    (start : motive before) : motive after := by
  have along : ∀ {marks : Account} {middle : AckQueue}, Moves before marks middle →
      motive middle := by
    intro marks middle several
    induction several with
    | refl => exact start
    | tail _ move ih => exact moves move ih
  cases stride with
  | move move => exact moves move start
  | silent several _ => exact along several
  | opens several task absent => exact opens absent (along several)

variable (queue : AckQueue)

/-! ### Remarks -/

@[simp] theorem remarks_noteFlush (failures : Nat) (ended : FlushEnd) :
    Effect.Remarks (queue.noteFlush failures ended).2 := by
  unfold noteFlush
  split <;> simp [Effect.isRemark]

@[simp] theorem remarks_resolve (offset : Int) (verdict : Verdict) :
    Effect.Remarks (queue.resolve offset verdict).2 := by
  unfold resolve
  split
  · dsimp only
    unfold signalEffects
    split
    · split <;> simp [Effect.isRemark]
    · exact Effect.remarks_nil
  · exact Effect.remarks_nil

@[simp] theorem remarks_receive (subject : String) (accepts : Message → Bool)
    (messages : List Message) :
    Effect.Remarks (queue.receive subject accepts messages).effects := by
  induction messages generalizing queue with
  | nil => exact Effect.remarks_nil
  | cons message rest ih =>
      unfold receive
      split
      · simp [ih, Effect.isRemark]
      · split <;> simp [ih, Effect.isRemark]

/-- Leaving the lock wakes at most the next in line. -/
@[simp] theorem remarks_leaveLock (task : TaskId) : Effect.Remarks (queue.leaveLock task).2 := by
  unfold leaveLock
  dsimp only
  split
  · split <;> simp [Effect.isRemark]
  · exact Effect.remarks_nil

@[simp] theorem remarks_closeFlush (task : TaskId) : Effect.Remarks (queue.closeFlush task).2 :=
  queue.remarks_leaveLock task

@[simp] theorem remarks_failFlush (task : TaskId) (fault : Fault) :
    Effect.Remarks (queue.failFlush task fault).effects := by
  simp [failFlush, Effect.isRemark]

/-! ### What operations leave alone -/

/-- The end of a flush of the schedule concerns the schedule only, and tells of no call. -/
theorem noteFlush_rest (failures : Nat) (ended : FlushEnd) :
    ∃ schedule, (queue.noteFlush failures ended).1 = { queue with schedule := schedule } ∧
      Account.ofEffects (queue.noteFlush failures ended).2 = [] := by
  have silent := Account.ofEffects_of_remarks (queue.remarks_noteFlush failures ended)
  cases ended with
  | outcome outcome => cases outcome <;> exact ⟨_, rfl, silent⟩
  | panicked text => exact ⟨_, rfl, silent⟩

/-- The schedule and the teardown leave everything but the signal, the schedule itself and the
teardown mark as it was. -/
theorem Background.rest {queue next : AckQueue} (changed : Background queue next) :
    ∃ signal schedule loop destroyed, next =
      { queue with
        signal := signal, schedule := schedule, loop := loop, destroyed := destroyed } := by
  cases changed with
  | start task unstarted => exact ⟨_, _, _, _, rfl⟩
  | enter now draw =>
      unfold enterWait
      split <;> exact ⟨_, _, _, _, rfl⟩
  | hear due flush idle notified => exact ⟨_, _, _, _, rfl⟩
  | elapse due flush idle => exact ⟨_, _, _, _, rfl⟩
  | retry failures due flush backingOff => exact ⟨_, _, _, _, rfl⟩
  | note failures flush ended flushing =>
      obtain ⟨_, same, _⟩ := queue.noteFlush_rest failures ended
      exact ⟨_, _, _, _, same⟩
  | stop =>
      unfold stopSchedule
      split <;> exact ⟨_, _, _, _, rfl⟩
  | destroy =>
      unfold stopSchedule
      split <;> exact ⟨_, _, _, _, rfl⟩

/-- The registration of a message concerns the queued entries and the window only. -/
theorem register_rest (message : Message) :
    ∃ queued window, (queue.register message).1 =
      { queue with queued := queued, window := window } := by
  unfold register
  split <;> exact ⟨_, _, rfl⟩

/-- A verdict concerns the entries and the signal only. -/
theorem resolve_rest (offset : Int) (verdict : Verdict) :
    ∃ settled queued signal, (queue.resolve offset verdict).1 =
        { queue with settled := settled, queued := queued, signal := signal } ∧
      Account.ofEffects (queue.resolve offset verdict).2 = [] := by
  have rest : ∃ settled queued signal, (queue.resolve offset verdict).1 =
      { queue with settled := settled, queued := queued, signal := signal } := by
    unfold resolve
    split <;> exact ⟨_, _, _, rfl⟩
  obtain ⟨settled, queued, signal, same⟩ := rest
  exact ⟨settled, queued, signal, same,
    Account.ofEffects_of_remarks (queue.remarks_resolve offset verdict)⟩

/-! ### Operations as moves -/

/-- Going through the offsets of a round sends one call. -/
theorem transmit_sends (task : TaskId) (done rest : List Int) :
    Transmission queue task done rest (.ofEffects (queue.transmit task done rest).effects)
        (queue.transmit task done rest).queue ∧
      (queue.transmit task done rest).ended = none := by
  suffices general : ∀ passed, (∀ offset ∈ passed, ∀ other,
      queue.stateOf? offset ≠ some (.needRetry other)) →
      Transmission queue task done (passed ++ rest)
          (.ofEffects (queue.transmit task (done ++ passed) rest).effects)
          (queue.transmit task (done ++ passed) rest).queue ∧
        (queue.transmit task (done ++ passed) rest).ended = none by
    simpa only [List.nil_append, List.append_nil] using general [] nofun
  induction rest with
  | nil =>
      intro passed kept
      rw [List.append_nil]
      exact ⟨.sendAck kept, rfl⟩
  | cons offset rest ih =>
      intro passed kept
      unfold transmit
      split
      · rename_i message nacked
        exact ⟨.sendBack passed offset rest message rfl kept nacked, rfl⟩
      · rename_i here
        rw [List.append_cons passed, List.append_assoc done]
        refine ih (passed ++ [offset]) fun other member message => ?_
        rcases List.mem_append.mp member with earlier | current
        · exact kept other earlier message
        · rw [List.mem_singleton.mp current]
          exact here message

@[simp] theorem ofEffects_closeFlush (task : TaskId) :
    Account.ofEffects (queue.closeFlush task).2 = [] :=
  Account.ofEffects_of_remarks (queue.remarks_closeFlush task)

@[simp] theorem ofEffects_endRound (task : TaskId) :
    Account.ofEffects (queue.endRound task).2 = [] :=
  Account.ofEffects_of_remarks (queue.remarks_leaveLock task)

theorem ofEffects_failFlush (task : TaskId) (fault : Fault) :
    Account.ofEffects (queue.failFlush task fault).effects = [] :=
  Account.ofEffects_of_remarks (queue.remarks_failFlush task fault)

/-- The lines that a batch leaves: every message with the answer it gets in its turn. -/
def offers (queue : AckQueue) : List Message → Account
  | [] => []
  | message :: rest => .offered message (queue.register message).2 ::
      (queue.register message).1.offers rest

/-- Whether a message is registered depends on the teardown mark and the end of the window only. -/
theorem offers_congr {first second : AckQueue} (destroyed : first.destroyed = second.destroyed)
    (top : first.window.max = second.window.max) (messages : List Message) :
    first.offers messages = second.offers messages := by
  induction messages generalizing first second with
  | nil => rfl
  | cons message rest ih =>
      have same : first.admits message = second.admits message := by
        simp only [admits, destroyed, top]
      unfold offers register
      rw [same]
      cases second.admits message with
      | error fault => exact congrArg _ (ih destroyed top)
      | ok offset => exact congrArg _ (ih destroyed rfl)

/-- A resolution changes nothing about the answers to a batch. -/
theorem offers_resolve (offset : Int) (verdict : Verdict) (messages : List Message) :
    (queue.resolve offset verdict).1.offers messages = queue.offers messages := by
  obtain ⟨_, _, _, same, _⟩ := queue.resolve_rest offset verdict
  refine offers_congr ?_ ?_ messages
  all_goals rw [same]

/-- A batch is registered message by message, and a message that the filter rejects is completed
at once. -/
theorem receive_moves (subject : String) (accepts : Message → Bool) (messages : List Message) :
    queue.Moves (queue.offers messages) (queue.receive subject accepts messages).queue := by
  induction messages generalizing queue with
  | nil => exact .refl queue
  | cons message rest ih =>
      have registers := (Move.register message : queue.Move _ _).moves
      have account : queue.offers (message :: rest) =
          [Mark.offered message (queue.register message).2] ++
            (queue.register message).1.offers rest := rfl
      rw [account]
      cases admits : queue.admits message with
      | error fault =>
          have refused : queue.register message = (queue, .error fault) := by
            simp only [register, admits]
          simp only [receive, admits]
          rw [refused] at registers ⊢
          exact registers.trans (ih queue)
      | ok offset =>
          have appended : queue.register message = (queue.append offset, .ok offset) := by
            simp only [register, admits]
          rw [appended] at registers ⊢
          by_cases accepted : accepts message = true
          · simp only [receive, admits, accepted, if_true]
            exact registers.trans (ih (queue.append offset))
          · have resolves := (Move.resolve offset .complete : (queue.append offset).Move _ _).moves
            simp only [receive, admits, accepted]
            rw [← (queue.append offset).offers_resolve offset .complete rest]
            exact registers.trans (resolves.trans (ih _))

/-- The intake of a batch is a stride that leaves the offers as its lines. -/
theorem receive_stride (subject : String) (accepts : Message → Bool) (messages : List Message) :
    queue.Stride (queue.offers messages) (queue.receive subject accepts messages).queue := by
  refine .silent (queue.receive_moves subject accepts messages) fun task call => ?_
  induction messages generalizing queue with
  | nil => exact List.not_mem_nil
  | cons message rest ih =>
      intro member
      rcases List.mem_cons.mp member with here | later
      · exact nomatch here
      · exact ih (queue.register message).1 later

end AckQueue

end PullConsumer
