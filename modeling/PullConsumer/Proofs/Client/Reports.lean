import PullConsumer.Proofs.Client.FlushTasks
import PullConsumer.Proofs.Client.Pairing

/-! # What hand-backs report

What goes wrong in a hand-back is logged: each failure of a call, and each flush that failed, was
late or broke down (`World.Regular.reports`).
-/

namespace PullConsumer

/-- The fault that a notice is about. -/
def Notice.fault? : Notice → Option Fault
  | .transmissionFailed _ _ _ fault | .sendBackFailed _ fault | .offlineReleaseFailed _ fault
  | .bestEffortFailed _ fault => some fault
  | _ => none

/-- The end of a flush that a notice of a hand-back is about. -/
def Notice.flushResult? : Notice → Option TaskResult
  | .queueDrained _ outcome | .offlineFlushIncomplete _ outcome => some (.outcome outcome)
  | .drainAborted _ text | .offlineFlushAborted _ text => some (.panicked text)
  | _ => none

/-- Whether a flush has failed, was late or broke down. -/
def TaskResult.isFailure : TaskResult → Bool
  | .outcome (.failed _) | .outcome .timedOut | .panicked _ => true
  | _ => false

namespace World

variable {world before middle after : World} {task drain : TaskId} {name : EntryId}
  {kind : HandBack} {stage : HandBackStage} {event : Event}

/-! ### Notices -/

/-- A notice is logged during a change. -/
def Logs (notice : Notice) (before after : World) : Prop :=
  ∃ fresh, after.history = fresh ++ before.history ∧ Effect.notice notice ∈ fresh

namespace Logs

variable {notice : Notice} {account : Account}

/-- A notice that is logged is in the account. -/
theorem log (world : World) (notice : Notice) : Logs notice world (world.log notice) :=
  ⟨[.notice notice], rfl, List.mem_cons_self⟩

/-- A notice is still logged after what happens later. -/
theorem followed (logs : Logs notice before middle) (tells : middle.Tells account after) :
    Logs notice before after := by
  obtain ⟨earlier, middleHistory, member⟩ := logs
  obtain ⟨later, afterHistory, _⟩ := tells
  refine ⟨later ++ earlier, ?_, List.mem_append_right later member⟩
  rw [afterHistory, middleHistory, List.append_assoc]

/-- A notice is logged whatever happened earlier. -/
theorem preceded (tells : before.Tells account middle) (logs : Logs notice middle after) :
    Logs notice before after := by
  obtain ⟨earlier, middleHistory, _⟩ := tells
  obtain ⟨later, afterHistory, member⟩ := logs
  refine ⟨later ++ earlier, ?_, List.mem_append_left earlier member⟩
  rw [afterHistory, middleHistory, List.append_assoc]

/-- A notice among the changes is logged when they are brought about. -/
theorem of_changes (world : World) {changes : List Change}
    (member : .effect (.notice notice) ∈ changes) : Logs notice world (world.after changes) := by
  obtain ⟨earlier, later, rfl⟩ := List.append_of_mem member
  rw [after_append, after_cons]
  exact .preceded (world.tells_after earlier) ((log _ notice).followed (tells_after _ later))

end Logs

/-! ### Failures of a flush -/

/-- A flush whose call fails says so. -/
theorem failFlush_logs (queue : AckQueue) (task : TaskId) (fault : Fault) :
    ∃ notice, Effect.notice notice ∈ (queue.failFlush task fault).effects ∧
      notice.fault? = some fault :=
  ⟨_, List.mem_append_right _ List.mem_cons_self, rfl⟩

/-- A call that fails is reported with its fault. -/
theorem answerFlush_logs {queue : AckQueue} (awaits : queue.awaitsAnswer task = true)
    (fault : Fault) : ∃ notice,
      Effect.notice notice ∈ (queue.answerFlush task (.failed fault)).effects ∧
        notice.fault? = some fault := by
  obtain ⟨notice, member, about⟩ := failFlush_logs queue task fault
  unfold AckQueue.awaitsAnswer at awaits
  split at awaits
  · rename_i done current rest message returning
    simp only [AckQueue.answerFlush, returning]
    split
    · exact ⟨notice, List.mem_append_right _ member, about⟩
    · refine ⟨.sendBackFailed queue.assignment.subject fault, ?_, rfl⟩
      exact List.mem_append_left _ (List.mem_cons_of_mem _ List.mem_cons_self)
  · rename_i ready acking
    simp only [AckQueue.answerFlush, acking]
    exact ⟨notice, List.mem_append_right _ member, about⟩
  · cases awaits

/-- The bounded flush that waits for an answer does so in its queue. -/
theorem awaitsAnswer_of_drain {queue : QueueId} {timeout : Nat} {final : Bool}
    {deadline : Option Nat} {parent : Option TaskId}
    (own : world.tasks.get? drain = some (.drain queue timeout final deadline parent))
    (awaits : (world.awaited? drain).isSome = true) :
    ∃ held, AckQueue.awaitsAnswer held drain = true ∧
      ∀ answer, Transition world (.answer drain answer)
        (adopting drain queue final (held.answerFlush drain answer)) := by
  cases deadline with
  | none =>
      simp only [awaited?, own] at awaits
      cases awaits
  | some due =>
      simp only [awaited?, own] at awaits
      cases here : world.queues.get? queue with
      | none =>
          rw [here] at awaits
          cases awaits
      | some held =>
          rw [here, Option.bind_some] at awaits
          refine ⟨held, ?_, fun answer => .answersFlush answer own rfl here⟩
          split at awaits
          · rename_i returning
            simp only [AckQueue.awaitsAnswer, returning]
          · rename_i acking
            simp only [AckQueue.awaitsAnswer, acking]
          · cases awaits

/-! ### What a hand-back reports -/

/-- A task that waits for a release hands an entry back. -/
theorem handBack_of_awaited (awaits : world.awaited? task = some .release) :
    ∃ name kind, world.tasks.get? task = some (.handBack name kind .releasing) := by
  unfold awaited? at awaits
  split at awaits
  · split at awaits <;> cases awaits
  · split at awaits <;> cases awaits
  · cases awaits
  · rename_i name kind own
    exact ⟨name, kind, own⟩
  · cases awaits
  · cases awaits

/-- A hand-back that releases the lock waits for the answer to the release. -/
theorem awaited?_of_releasing
    (own : world.tasks.get? task = some (.handBack name kind .releasing)) :
    world.awaited? task = some .release := by
  simp only [awaited?, own]

/-- What goes wrong in a hand-back is logged: each failure of a call, and each flush that failed,
was late or broke down, when the hand-back takes its result. -/
structure Reports (world : World) (task : TaskId) : Prop where
  failed : ∀ name kind drain fault,
    world.tasks.get? task = some (.handBack name kind (.draining drain)) →
    (world.awaited? drain).isSome = true → ∃ notice,
      Logs notice world (world.step (.answer drain (.failed fault))).1 ∧ notice.fault? = some fault
  broken : ∀ name kind drain text,
    world.tasks.get? task = some (.handBack name kind (.draining drain)) →
    (world.awaited? drain).isSome = true →
    (world.step (.answer drain (.panicked text))).1.results.get? drain = some (.panicked text)
  flushed : ∀ name kind drain draw result,
    world.tasks.get? task = some (.handBack name kind (.draining drain)) →
    world.results.get? drain = some result → result.isFailure = true → ∃ notice,
      Logs notice world (world.step (.proceed task draw)).1 ∧ notice.flushResult? = some result
  refused : ∀ fault, world.awaited? task = some .release → ∃ notice,
    Logs notice world (world.step (.answer task (.failed fault))).1 ∧ notice.fault? = some fault

/-- The notices of a hand-back tell of a flush that failed, was late or broke down. -/
theorem drainNotices_tell (kind : HandBack) (subject : String) {result : TaskResult}
    (failure : result.isFailure = true) : ∃ notice,
      Effect.notice notice ∈ drainNotices kind subject result ∧
        notice.flushResult? = some result := by
  cases result with
  | delivered | failed | done | cancelled => cases failure
  | panicked text =>
      cases kind with
      | destroy => exact ⟨.drainAborted subject text, List.mem_cons_self, rfl⟩
      | offline => exact ⟨.offlineFlushAborted subject text, List.mem_cons_self, rfl⟩
  | outcome outcome =>
      cases kind with
      | destroy => exact ⟨.queueDrained subject outcome, List.mem_cons_self, rfl⟩
      | offline =>
          cases outcome with
          | drained | outstanding => cases failure
          | failed entries =>
              exact ⟨.offlineFlushIncomplete subject (.failed entries), List.mem_cons_self, rfl⟩
          | timedOut =>
              exact ⟨.offlineFlushIncomplete subject .timedOut, List.mem_cons_self, rfl⟩

/-- The notice about a lock that was not released tells why. -/
theorem releaseNotices_tell (entry : PullEntry) (kind : HandBack) (fault : Fault) : ∃ notice,
    Effect.notice notice ∈ releaseNotices (some entry) kind (.failed fault) ∧
      notice.fault? = some fault := by
  cases kind with
  | destroy => exact ⟨_, List.mem_cons_self, rfl⟩
  | offline => exact ⟨_, List.mem_cons_self, rfl⟩

/-- What goes wrong in a hand-back is logged, whatever has happened before. -/
theorem Regular.reports (regular : world.Regular) (task : TaskId) : world.Reports task := by
  have listed : ∀ {name kind stage}, world.tasks.get? task = some (.handBack name kind stage) →
      (Task.handBack name kind stage).handsBack = true →
      ∃ entry, world.entries.get? name = some entry := by
    intro name kind stage own begun
    obtain ⟨_, _, handover⟩ := regular.handed name
    obtain ⟨entry, present, _⟩ := handover.serves task _ own begun rfl
    exact ⟨entry, present⟩
  have flushing : ∀ {name kind drain},
      world.tasks.get? task = some (.handBack name kind (.draining drain)) →
      (world.awaited? drain).isSome = true →
      ∃ queue final held, AckQueue.awaitsAnswer held drain = true ∧
        ∀ answer, Transition world (.answer drain answer)
          (adopting drain queue final (held.answerFlush drain answer)) := by
    intro name kind drain own awaits
    rcases (regular.paired.awaits task name kind drain own).2 with
      ⟨queue, timeout, final, deadline, flush⟩ | ⟨result, found⟩
    · exact ⟨queue, final, awaitsAnswer_of_drain flush awaits⟩
    · have ended := (regular.filed drain result found).2
      simp only [awaited?, ended] at awaits
      cases awaits
  refine ⟨fun name kind drain fault own awaits => ?_, fun name kind drain text own awaits => ?_,
    fun name kind drain draw result own found failure => ?_, fun fault awaits => ?_⟩
  · obtain ⟨queue, final, held, called, answers⟩ := flushing own awaits
    obtain ⟨notice, member, about⟩ := answerFlush_logs called fault
    rw [(answers _).step]
    refine ⟨notice, .of_changes world (List.mem_append_left _ (List.mem_cons_of_mem _ ?_)), about⟩
    exact List.mem_map_of_mem member
  · obtain ⟨queue, final, held, called, answers⟩ := flushing own awaits
    have breaks : (held.answerFlush drain (.panicked text)).ended = some (.panicked text) := by
      rw [AckQueue.answerFlush_panicked called]
    rw [(answers _).step]
    simp only [adopting, breaks, concluding, after_append]
    exact (get?_finish _ drain _).2
  · obtain ⟨entry, present⟩ := listed own rfl
    obtain ⟨notice, member, about⟩ := drainNotices_tell kind entry.assignment.subject failure
    rw [(Transition.concludes draw own found present).step]
    refine ⟨notice, .of_changes world (List.mem_append_left _ (List.mem_cons_of_mem _ ?_)), about⟩
    exact List.mem_map_of_mem member
  · obtain ⟨name, kind, own⟩ := handBack_of_awaited awaits
    obtain ⟨entry, present⟩ := listed own rfl
    obtain ⟨notice, member, about⟩ := releaseNotices_tell entry kind fault
    rw [(Transition.answersRelease (.failed fault) own).step, present]
    refine ⟨notice, .of_changes world (List.mem_append_left _ (List.mem_cons_of_mem _ ?_)), about⟩
    exact List.mem_map_of_mem member

end World

end PullConsumer
