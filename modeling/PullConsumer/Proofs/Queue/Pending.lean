import PullConsumer.Proofs.Queue.Attempts

/-! # Pending entries

An entry is pending from its registration to its resolution and never again
(`AckQueue.Stride.pending`). Of the messages of a batch that are registered, the intake delivers
those whose entries it leaves pending (`AckQueue.receive_adds`).
-/

namespace PullConsumer.AckQueue

variable {queue next : AckQueue} {account : Account} {offset : Int}

/-- Where nothing is registered no entry becomes pending. -/
theorem Stride.pending (stride : Stride queue account next) (quiet : account.admitted = [])
    (pending : next.stateOf? offset = some .pending) : queue.stateOf? offset = some .pending := by
  have listed := (next.exists_stateOf?_iff offset).mp ⟨_, pending⟩
  rw [stride.registered, quiet, List.append_nil] at listed
  obtain ⟨state, here⟩ := (queue.exists_stateOf?_iff offset).mpr listed
  by_cases same : state = .pending
  · rw [here, same]
  · rcases stride.resolved here same with kept | completed
    · exact absurd (Option.some.inj (kept.symm.trans pending)) same
    · exact nomatch completed.symm.trans pending

/-! ### Intake -/

/-- What a batch adds to a queue: entries above all that was registered, in the order of their
offsets, of which those are pending whose messages are delivered. -/
structure Adds (queue next : AckQueue) (accepted : List Accepted) : Prop where
  increasing : (queue.window.max :: accepted.map Accepted.offset).Pairwise (· < ·)
  top : queue.window.max ≤ next.window.max
  below : ∀ item ∈ accepted, item.offset ≤ next.window.max
  valid : ∀ item ∈ accepted, item.message.pullOffset = .ok item.offset
  pending : ∀ offset, next.stateOf? offset = some .pending →
    queue.stateOf? offset = some .pending ∨ offset ∈ accepted.map Accepted.offset

namespace Adds

/-- Where nothing is registered nothing is added. -/
theorem of_stride (stride : Stride queue account next) (quiet : account.admitted = []) :
    queue.Adds next [] where
  increasing := List.pairwise_singleton ..
  top := stride.window.max
  below _ := nofun
  valid _ := nofun
  pending _ pending := .inl (stride.pending quiet pending)

/-- A message that is delivered. -/
theorem cons {message : Message} {accepted : List Accepted}
    (admits : queue.admits message = .ok offset) (rest : (queue.append offset).Adds next accepted) :
    queue.Adds next (⟨message, offset⟩ :: accepted) := by
  obtain ⟨_, valid, above⟩ := (queue.admits_eq_ok_iff message offset).mp admits
  have top : offset ≤ next.window.max := rest.top
  have increasing : (offset :: accepted.map Accepted.offset).Pairwise (· < ·) := rest.increasing
  refine ⟨?_, Int.le_trans (Int.le_of_lt above) top, ?_, ?_, fun other pending => ?_⟩
  · refine List.pairwise_cons.mpr ⟨fun other member => ?_, increasing⟩
    rcases List.mem_cons.mp member with rfl | later
    · exact above
    · exact Int.lt_trans above ((List.pairwise_cons.mp increasing).1 other later)
  · exact List.forall_mem_cons.mpr ⟨top, rest.below⟩
  · exact List.forall_mem_cons.mpr ⟨valid, rest.valid⟩
  · rcases rest.pending other pending with before | later
    · rw [stateOf?_append] at before
      cases old : queue.stateOf? other with
      | some state =>
          rw [old, Option.some_or] at before
          exact .inl before
      | none =>
          rw [old, Option.none_or] at before
          split at before
          · rename_i same
            exact .inr (same ▸ List.mem_cons_self)
          · exact nomatch before
    · exact .inr (List.mem_cons_of_mem _ later)

/-- A message that is completed at once. -/
theorem filtered {message : Message} {accepted : List Accepted}
    (admits : queue.admits message = .ok offset)
    (rest : ((queue.append offset).resolve offset .complete).1.Adds next accepted) :
    queue.Adds next accepted := by
  obtain ⟨_, _, above⟩ := (queue.admits_eq_ok_iff message offset).mp admits
  obtain ⟨_, _, _, same, _⟩ := (queue.append offset).resolve_rest offset .complete
  have top : ((queue.append offset).resolve offset .complete).1.window.max = offset := by
    rw [same]
    rfl
  obtain ⟨later, increasing⟩ := List.pairwise_cons.mp rest.increasing
  rw [top] at later
  refine ⟨List.pairwise_cons.mpr ⟨fun other member => ?_, increasing⟩, ?_, rest.below, rest.valid,
    fun other pending => ?_⟩
  · exact Int.lt_trans above (later other member)
  · exact Int.le_trans (Int.le_of_lt above) (top ▸ rest.top)
  · refine (rest.pending other pending).imp_left fun before => ?_
    rw [stateOf?_resolve] at before
    split at before
    · exact nomatch before
    · rename_i unresolved
      by_cases own : other = offset
      · subst own
        exact absurd ⟨rfl, before⟩ unresolved
      · rw [stateOf?_append, if_neg (Ne.symm own), Option.or_none] at before
        exact before

end Adds

/-- **Only delivered messages are pending.** -/
theorem receive_adds (queue : AckQueue) (subject : String) (accepts : Message → Bool)
    (messages : List Message) :
    queue.Adds (queue.receive subject accepts messages).queue
      (queue.receive subject accepts messages).accepted := by
  induction messages generalizing queue with
  | nil => exact .of_stride (.still queue) rfl
  | cons message rest ih =>
      unfold receive
      split
      · exact ih queue
      · rename_i offset admits
        split
        · exact .cons admits (ih _)
        · exact .filtered admits (ih _)

/-! ### Without pending entries -/

/-- No entry is pending. -/
structure Resolved (queue : AckQueue) : Prop where
  states : ∀ offset, queue.stateOf? offset ≠ some .pending

/-- While nothing is registered, all entries stay resolved. -/
theorem Resolved.stride (resolved : queue.Resolved) (stride : Stride queue account next)
    (quiet : account.admitted = []) : next.Resolved where
  states offset pending := resolved.states offset (stride.pending quiet pending)

/-- Without pending entries all that is queued is ready for a flush. -/
theorem Resolved.readyOffsets (resolved : queue.Resolved) (ordered : queue.Ordered) :
    queue.readyOffsets = queue.queued.map AckEntry.offset := by
  have ready : ∀ entry ∈ queue.queued, (!entry.state.isPending) = true := by
    intro entry member
    have found := ordered.stateOf?_of_mem (List.mem_append_right queue.settled member)
    cases state : entry.state with
    | pending => exact absurd (found.trans (congrArg some state)) (resolved.states entry.offset)
    | completed | needRetry => rfl
  have whole : (queue.queued ++ []).takeWhile (fun entry => !entry.state.isPending) =
      queue.queued ++ [].takeWhile _ := List.takeWhile_append_of_pos ready
  rw [List.append_nil, List.takeWhile_nil, List.append_nil] at whole
  exact congrArg _ whole

end PullConsumer.AckQueue
