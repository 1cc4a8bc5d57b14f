import PullConsumer.Proofs.Client.Alarms

/-! # The count of the signal along a run

After every run the signal of a queue counts the resolved entries that are queued, no more and no
fewer (`World.run_signalled`): a resolution is counted once, a message that is back at the broker is
not counted again, and an acknowledgment takes off exactly the entries that it removes.
-/

namespace PullConsumer

/-- The entry that the application resolves by an event. -/
def Event.resolution? : Event → Option (QueueId × Int)
  | .resolve queue offset _ => some (queue, offset)
  | .acknowledge ⟨_, queue, offset, none⟩ => some (queue, offset)
  | _ => none

namespace AckQueue

variable {queue : AckQueue} {size : Nat} {maySend : TaskId → Prop} {task : TaskId}

/-- An entry that is not pending stays as it is. -/
theorem resolve_of_resolved {offset : Int} (resolved : queue.stateOf? offset ≠ some .pending)
    (verdict : Verdict) : queue.resolve offset verdict = (queue, []) :=
  if_neg resolved

/-- Whether a message comes back to the broker or not, the signal stays as it is. -/
theorem signal_answerFlush_returning {done rest : List Int} {current : Int} {message : Message}
    (returning : queue.flushes.get? task = some (.returning done current rest message))
    (answer : Answer Unit) : (queue.answerFlush task answer).queue.signal = queue.signal := by
  have answers := queue.answers task answer
  generalize (queue.answerFlush task answer).queue = next at answers
  generalize Account.ofEffects (queue.answerFlush task answer).effects = account at answers
  cases answers with
  | resumes _ sent =>
      obtain ⟨_, same⟩ := sent.rest
      rw [same]
      rfl
  | accepts acking => cases returning.symm.trans acking
  | fails | panics =>
      obtain ⟨_, _, same⟩ := queue.closeFlush_rest task
      rw [same]
  | cuts | idle => rfl

/-- An acknowledgment takes off the count what it removes from the queue. -/
theorem Alarmed.signal_answerFlush_acking (alarmed : queue.Alarmed size maySend)
    (sound : queue.Sound) {ready : List Int}
    (acking : queue.flushes.get? task = some (.acking ready)) :
    (queue.answerFlush task (.value ())).queue.signal.resolved + ready.length =
      queue.signal.resolved := by
  have split := congrArg (List.count false) (sound.pendings_settle acking)
  rw [List.count_append, List.count_replicate_self, ← alarmed.counted] at split
  obtain ⟨_, _, same⟩ := (queue.settle ready.length (ready.getLastD 0)).endRound_rest task
  have reset : (queue.answerFlush task (.value ())).queue.signal.resolved =
      queue.signal.resolved - ready.length := by
    simp only [answerFlush, acking, same]
    rfl
  rw [reset, split]
  omega

end AckQueue

namespace World

variable {world : World} {name : QueueId} {queue : AckQueue} {task : TaskId}

/-- The signal of a queue counts its resolved entries, and every event counts right. -/
structure Signalled (world : World) (name : QueueId) (queue : AckQueue) : Prop where
  counted : queue.signal.resolved = queue.queued.countP fun entry => !entry.state.isPending
  /-- A resolution that comes late changes nothing. -/
  late : ∀ event offset, event.resolution? = some (name, offset) →
    queue.stateOf? offset ≠ some .pending →
    (world.step event).1.queues.get? name = some queue
  /-- The answer to the return of a message leaves the signal as it is. -/
  returned : ∀ task done current rest message answer,
    queue.flushes.get? task = some (.returning done current rest message) →
    ∃ next, (world.step (.answer task answer)).1.queues.get? name = some next ∧
      next.signal = queue.signal
  /-- What an acknowledgment takes off was counted. -/
  accepted : ∀ task ready, queue.flushes.get? task = some (.acking ready) →
    ∃ next, (world.step (.answer task (.value ()))).1.queues.get? name = some next ∧
      next.signal.resolved + ready.length = queue.signal.resolved

/-- An answer reaches the flush that waits for it. -/
theorem Proper.answered_queue (proper : world.Proper) (here : world.queues.get? name = some queue)
    {phase : FlushPhase} (runs : queue.flushes.get? task = some phase) (answer : Answer Unit) :
    (world.step (.answer task answer)).1.queues.get? name =
      some (queue.answerFlush task answer).queue := by
  have owns := (proper.tidy name).owns here runs
  rw [(step_of_flushOf? here owns 0 answer).2, (frame_adopt ..).1, Table.get?_set, if_pos rfl]

/-- A late resolution leaves the queue as it is. -/
theorem step_of_resolution {event : Event} {offset : Int}
    (resolves : event.resolution? = some (name, offset))
    (here : world.queues.get? name = some queue)
    (resolved : queue.stateOf? offset ≠ some .pending) :
    (world.step event).1.queues.get? name = some queue := by
  have still : ∀ verdict, (world.resolve name offset verdict).queues.get? name = some queue := by
    intro verdict
    rw [resolve_queue here, AckQueue.resolve_of_resolved resolved]
  cases event with
  | resolve target other verdict =>
      cases resolves
      exact still verdict
  | acknowledge delivery =>
      obtain ⟨message, target, other, hook⟩ := delivery
      cases hook with
      | some own => cases resolves
      | none =>
          cases resolves
          exact still .complete
  | _ => cases resolves

variable (epoch : Nat) (settings : Settings) (events : List Event)

/-- Of three messages one is to be returned, one is completed and one is pending. A flush returns
the first and asks for the acknowledgment of two. -/
def returnedAndCompleted : List Event :=
  let messages := ["1", "2", "3"].map ((default : Message).setKey .pullOffset ·)
  [.openQueue (.ofNames "s" "g" "p" "b" "c" .shared), .receive 0 "s" (fun _ => true) none messages,
    .resolve 0 1 (.retry default), .resolve 0 1 .complete, .resolve 0 2 .complete,
    .begin (.flush 0 100), .proceed 0 0, .proceed 0 0, .proceed 0 0, .answer 0 (.value ())]

/-- **The signal counts the resolved entries.** After every run the count of a queue's signal is the
number of its entries that are not pending. No late resolution and no return of a message changes
the count, and an acknowledgment lowers it by what it removes from the queue, which is never more
than was counted. -/
theorem run_signalled (here : ((initial epoch settings).run events).queues.get? name = some queue) :
    ((initial epoch settings).run events).Signalled name queue := by
  have proper := run_proper epoch settings events
  have sound := (proper.tidy name).sound queue here
  obtain ⟨made, _, alarmed⟩ := (proper_initial epoch settings).alarmed
    (run_filed epoch settings []) events none
    (fun queue found => absurd found.symm (Option.some_ne_none queue)) (fun _ => rfl) queue here
  refine ⟨alarmed.resolved, fun event offset resolves resolved => ?_,
    fun task done current rest message answer returning => ?_, fun task ready acking => ?_⟩
  · exact step_of_resolution resolves here resolved
  · exact ⟨_, proper.answered_queue here returning answer,
      AckQueue.signal_answerFlush_returning returning answer⟩
  · exact ⟨_, proper.answered_queue here acking (.value ()),
      alarmed.signal_answerFlush_acking sound acking⟩

/-- The message that came back is counted once, and the acknowledgment of both leaves nothing to
count. -/
theorem run_signalled_returnedAndCompleted : ∃ queue next,
    ((initial 0 .standard).run returnedAndCompleted).queues.get? 0 = some queue ∧
      queue.queued = [⟨1, .completed⟩, ⟨2, .completed⟩, ⟨3, .pending⟩] ∧
      queue.signal.resolved = 2 ∧
      (((initial 0 .standard).run returnedAndCompleted).step
        (.answer 0 (.value ()))).1.queues.get? 0 = some next ∧ next.signal.resolved = 0 := by
  obtain ⟨queue, here, queued, acking⟩ : ∃ queue,
      ((initial 0 .standard).run returnedAndCompleted).queues.get? 0 = some queue ∧
        queue.queued = [⟨1, .completed⟩, ⟨2, .completed⟩, ⟨3, .pending⟩] ∧
        queue.flushes.get? 0 = some (.acking [1, 2]) := ⟨_, rfl, rfl, rfl⟩
  have signalled := run_signalled 0 .standard returnedAndCompleted here
  have counted : queue.signal.resolved = 2 := by
    rw [signalled.counted, queued]
    rfl
  obtain ⟨next, there, lowered⟩ := signalled.accepted 0 [1, 2] acking
  refine ⟨queue, next, here, queued, counted, there, ?_⟩
  rw [counted] at lowered
  exact Nat.add_right_cancel (lowered : next.signal.resolved + 2 = 0 + 2)

end World

end PullConsumer
