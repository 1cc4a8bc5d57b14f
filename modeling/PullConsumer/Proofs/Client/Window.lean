import PullConsumer.Proofs.Client.Runs
import PullConsumer.Proofs.Queue.Window

/-! # Windows along a run

Whatever happens to a client, what a queue holds stands within its window, no end of the window ever
falls, and a registration appends one pending entry or changes nothing (`World.run_window`).
-/

namespace PullConsumer.World

/-- Of three messages under the offsets 1, 5 and 7 the first two are acknowledged. -/
def partlyAcknowledged : List Event :=
  let messages := ["1", "5", "7"].map ((default : Message).setKey .pullOffset ·)
  [.openQueue (.ofNames "s" "g" "p" "b" "c" .shared), .receive 0 "s" (fun _ => true) none messages,
    .resolve 0 1 .complete, .resolve 0 5 .complete, .begin (.flush 0 100), .proceed 0 0,
    .proceed 0 0, .proceed 0 0, .answer 0 (.value ())]

variable (epoch : Nat) (settings : Settings) (events : List Event) {name : QueueId}
  {queue : AckQueue}

/-- **Windows.** After every run the window of a queue bounds its entries, which stand in increasing
order and end with the upper end of the window. No later event lowers an end of the window. A
message is refused and the queue stays as it was, or a pending entry is appended under its
offset. -/
theorem run_window
    (here : ((initial epoch settings).run events).queues.get? name = some queue) :
    queue.Bounded ∧
    (∀ later, ∃ next,
      ((initial epoch settings).run (events ++ later)).queues.get? name = some next ∧
        queue.window.Grows next.window) ∧
    ∀ message, ∃ result next,
      (((initial epoch settings).run events).step (.register name message)).2 =
          .registered result ∧
        (((initial epoch settings).run events).step (.register name message)).1.queues.get? name =
          some next ∧
        queue.Registration message result next := by
  have proper := run_proper epoch settings events
  refine ⟨((proper.tidy name).sound queue here).ordered.bounded, fun later => ?_, fun message => ?_⟩
  · rw [run_append]
    exact proper.carries (fun stride grows => grows.trans stride.window) later here (.refl _)
  · refine ⟨(queue.register message).2, (queue.register message).1, ?_, ?_,
      queue.registration message⟩
    · simp only [World.step, here]
    · simp only [World.step, here]
      exact (Table.get?_set ..).trans (if_pos rfl)

/-- The third message is all that is left between the ends of the window. -/
theorem run_window_partlyAcknowledged : ∃ queue,
    ((initial 0 .standard).run partlyAcknowledged).queues.get? 0 = some queue ∧
      queue.queued = [⟨7, .pending⟩] ∧ queue.window = ⟨5, 7⟩ ∧ queue.Bounded := by
  obtain ⟨queue, here, queued, window⟩ : ∃ queue,
      ((initial 0 .standard).run partlyAcknowledged).queues.get? 0 = some queue ∧
        queue.queued = [⟨7, .pending⟩] ∧ queue.window = ⟨5, 7⟩ := ⟨_, rfl, rfl, rfl⟩
  exact ⟨queue, here, queued, window, (run_window 0 .standard partlyAcknowledged here).1⟩

end PullConsumer.World
