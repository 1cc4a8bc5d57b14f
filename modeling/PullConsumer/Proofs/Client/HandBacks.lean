import PullConsumer.Proofs.Client.Actors

/-! # What an event does to a hand-back

A hand-back begins, waits for a flush, and releases the lock of its entry unless that was done
before. No other procedure marks an entry or releases a lock (`World.Proper.handles`).
-/

namespace PullConsumer

/-- The pull entry that a task hands back. -/
def Task.entryOf? : Task → Option EntryId
  | .handBack entry _ _ => some entry
  | _ => none

/-- The call that releases the lock of an entry. -/
def PullEntry.release (entry : PullEntry) : Call :=
  .release entry.assignment.subject entry.assignment.group entry.assignment.partition
    entry.assignment.brokerGroup entry.assignment.strategy

namespace World

variable {world before after : World} {task : TaskId} {name : EntryId} {entry : PullEntry}
  {kind : HandBack}

/-! ### Marks on entries -/

/-- A teardown marks its entry, and no other. -/
theorem marking_entries (kind : HandBack) (present : world.entries.get? name = some entry)
    (other : EntryId) : (world.after (marking kind name entry)).entries.get? other =
      if name = other then some { entry with destroyed := entry.destroyed || kind = .destroy }
      else world.entries.get? other := by
  cases kind with
  | destroy =>
      simp only [decide_true, Bool.or_true]
      exact Table.get?_set ..
  | offline =>
      simp only [reduceCtorEq, decide_false, Bool.or_false]
      split
      · rename_i same
        exact same ▸ present
      · rfl

theorem marking_nextEntry (world : World) (kind : HandBack) (name : EntryId) (entry : PullEntry) :
    (world.after (marking kind name entry)).nextEntry = world.nextEntry := by
  cases kind <;> rfl

/-- The release of a lock is noted in its entry, and in no other. -/
theorem releasing_entries (task : TaskId) (kind : HandBack)
    (present : world.entries.get? name = some entry) (other : EntryId) :
    (world.after (releasing task name kind entry)).entries.get? other =
      if name = other then some { entry with lockReleased := true }
      else world.entries.get? other := by
  unfold releasing
  split
  · rename_i released
    simp only [after_cons, after_nil, apply, frame_finish, ← released]
    split
    · rename_i same
      exact same ▸ present
    · rfl
  · exact Table.get?_set ..

theorem releasing_nextEntry (world : World) (task : TaskId) (name : EntryId) (kind : HandBack)
    (entry : PullEntry) :
    (world.after (releasing task name kind entry)).nextEntry = world.nextEntry := by
  unfold releasing
  split
  · exact (finish_rest world task .done).2
  · rfl

/-! ### What happens to a hand-back -/

/-- What the making of a pull entry does: the entry is listed, and its queue is there. -/
structure Lists (before : World) (assignment : Assignment) (consume : ConsumeParam)
    (entry : PullEntry) (after : World) : Prop where
  done : DoneBy none before after
  nextEntry : after.nextEntry = before.nextEntry + 1
  entries : ∀ other, after.entries.get? other =
    if before.nextEntry = other then some entry else before.entries.get? other
  made : entry.assignment = assignment ∧ entry.consume = consume
  queue : entry.queue = none ↔ entry.assignment.isPlaceholder = true
  fresh : entry.destroyed = false ∧ entry.lockReleased = false
  serves : ∀ queue, entry.queue = some queue → ∃ held, after.queues.get? queue = some held

/-- What the beginning of a hand-back does: it ends at once if there is nothing to give back, and
waits for a flush otherwise. -/
structure Begins (before : World) (task : TaskId) (name : EntryId) (kind : HandBack)
    (entry : PullEntry) (after : World) : Prop where
  done : DoneBy (some task) before after
  nextEntry : after.nextEntry = before.nextEntry
  entries : ∀ other, after.entries.get? other =
    if name = other then some { entry with destroyed := entry.destroyed || kind = .destroy }
    else before.entries.get? other
  own : after.tasks.get? task = none ∧ (kind = .destroy ∧ entry.destroyed = true ∨
      entry.queue = none) ∨
    entry.queue ≠ none ∧
      ∃ drain, after.tasks.get? task = some (.handBack name kind (.draining drain))

/-- What the end of a flush does for a hand-back: the lock is released unless it was before. -/
structure Concludes (before : World) (task : TaskId) (name : EntryId) (kind : HandBack)
    (entry : PullEntry) (after : World) : Prop where
  done : DoneBy (some task) before after
  tells : before.Tells (if entry.lockReleased then [] else [.called task entry.release]) after
  nextEntry : after.nextEntry = before.nextEntry
  entries : ∀ other, after.entries.get? other =
    if name = other then some { entry with lockReleased := true } else before.entries.get? other
  own : ∀ own, after.tasks.get? task = some own → own = .handBack name kind .releasing

/-- What an event means for hand-backs. -/
inductive Handles (world : World) : Event → World → Prop
  | aside {event : Event} {after : World} (aside : world.LeavesEntries event)
      (keepsEntries : KeepsEntries world after) : Handles world event after
  | lists (assignment : Assignment) (consume : ConsumeParam) {entry : PullEntry} {after : World}
      (lists : Lists world assignment consume entry after) :
      Handles world (.openEntry assignment consume) after
  /-- The hand-back has to wait, or its entry is not there. -/
  | waits {task : TaskId} (draw : Nat) {target : EntryId} {kind : HandBack} {stage : HandBackStage}
      (own : world.tasks.get? task = some (.handBack target kind stage))
      (unbegun : stage = .begun → world.entries.get? target = none) :
      Handles world (.proceed task draw) world
  | begins {task : TaskId} (draw : Nat) {target : EntryId} {kind : HandBack} {entry : PullEntry}
      {after : World} (own : world.tasks.get? task = some (.handBack target kind .begun))
      (present : world.entries.get? target = some entry)
      (begins : Begins world task target kind entry after) :
      Handles world (.proceed task draw) after
  | concludes {task : TaskId} (draw : Nat) {target : EntryId} {kind : HandBack} {drain : TaskId}
      {entry : PullEntry} {after : World}
      (own : world.tasks.get? task = some (.handBack target kind (.draining drain)))
      (present : world.entries.get? target = some entry)
      (concludes : Concludes world task target kind entry after) :
      Handles world (.proceed task draw) after

/-! ### Steps -/

/-- A new entry is listed under the next name. -/
theorem Proper.lists (proper : world.Proper) (assignment : Assignment) (consume : ConsumeParam) :
    ∃ entry, Lists world assignment consume entry
      (world.step (.openEntry assignment consume)).1 := by
  have done := proper.doneBy (.openEntry assignment consume)
  cases blank : assignment.isPlaceholder with
  | true =>
      rw [(Transition.opensPlaceholder consume blank).step] at done ⊢
      exact ⟨⟨assignment, consume, none, _, _, false, false⟩, done, rfl,
        fun _ => Table.get?_set .., ⟨rfl, rfl⟩, iff_of_true rfl blank, ⟨rfl, rfl⟩, nofun⟩
  | false =>
      rw [(Transition.opensEntry consume blank rfl).step] at done ⊢
      refine ⟨⟨assignment, consume, some world.nextQueue,
        world.live.current.destroyDrainTimeout.toNat, world.live.current.offlineFlushTimeout.toNat,
        false, false⟩, done, ?_, fun other => ?_, ⟨rfl, rfl⟩, iff_of_false nofun ?_, ⟨rfl, rfl⟩, ?_⟩
      · simp only [after_cons, after_nil, apply, spawn_rest]
      · simp only [after_cons, after_nil, apply, spawn_rest, frame_spawn]
        exact Table.get?_set ..
      · exact Bool.eq_false_iff.mp blank
      · rintro _ ⟨⟩
        simp only [after_cons, after_nil, apply, frame_spawn]
        exact ⟨_, (Table.get?_set ..).trans (if_pos rfl)⟩

/-- A hand-back begins to wait for a flush, or ends at once. -/
theorem Proper.begins (proper : world.Proper) (draw : Nat)
    (own : world.tasks.get? task = some (.handBack name kind .begun))
    (present : world.entries.get? name = some entry) :
    Begins world task name kind entry (world.step (.proceed task draw)).1 := by
  have done := proper.doneBy (.proceed task draw)
  have marked := marking_entries kind present
  have unlisted := world.marking_nextEntry kind name entry
  by_cases again : kind = .destroy ∧ entry.destroyed = true
  · -- An entry that is torn down bears its mark already.
    rw [(Transition.relinquishes draw own present (.inl ⟨again.1, again.2, rfl⟩)).step] at done ⊢
    have same : ({ entry with destroyed := entry.destroyed || kind = .destroy } : PullEntry) =
        entry := by
      rw [again.2, Bool.true_or, ← again.2]
    have ends := frame_finish world task .done
    refine ⟨done, (finish_rest world task .done).2, fun other => ?_,
      .inl ⟨(get?_finish world task .done).1, .inl again⟩⟩
    refine (congrArg (Table.get? other) ends.2.2.1).trans ?_
    split
    · rename_i here
      rw [← here, present, same]
    · rfl
  · cases serves : entry.queue with
    | none =>
        rw [(Transition.relinquishes draw own present (.inr ⟨again, serves, rfl⟩)).step,
          after_append] at done ⊢
        have ends := frame_finish (world.after (marking kind name entry)) task .done
        refine ⟨done, ?_, fun other => ?_, .inl ⟨(get?_finish _ task .done).1, .inr serves⟩⟩
        · exact (finish_rest _ task .done).2.trans unlisted
        · exact (congrArg (Table.get? other) ends.2.2.1).trans (marked other)
    | some queue =>
        rw [(Transition.handsBack draw own present again serves).step, after_append] at done ⊢
        have served : entry.queue ≠ none := fun none =>
          Option.some_ne_none queue (serves.symm.trans none)
        refine ⟨done, ?_, fun other => ?_, .inr ⟨served, world.nextTask, ?_⟩⟩
        · exact (spawn_rest _ _).2.trans unlisted
        · exact (congrArg (Table.get? other) (frame_spawn _ _).2.2.1).trans (marked other)
        · exact get?_setTask _ task _

/-- The end of the flush lets the hand-back release the lock. -/
theorem Proper.concludes {drain : TaskId} {result : TaskResult} (proper : world.Proper)
    (draw : Nat) (own : world.tasks.get? task = some (.handBack name kind (.draining drain)))
    (filed : world.results.get? drain = some result)
    (present : world.entries.get? name = some entry) :
    Concludes world task name kind entry (world.step (.proceed task draw)).1 := by
  have done := proper.doneBy (.proceed task draw)
  have transition := Transition.concludes draw own filed present
  have told := transition.tells
  rw [transition.step, after_append] at done told ⊢
  -- The flush has been reported, and the release follows.
  generalize reports : world.after (.collect drain ::
    Change.effects (drainNotices kind entry.assignment.subject result)) = reported at done told ⊢
  have same : reported.entries = world.entries ∧ reported.nextEntry = world.nextEntry := by
    rw [← reports]
    exact entries_kept (by simp)
  have there : reported.entries.get? name = some entry := by rw [same.1, present]
  refine ⟨done, ?_, (releasing_nextEntry ..).trans same.2, fun other => ?_, fun next found => ?_⟩
  · have lines : Account.ofEffects (Change.effectsOf (.collect drain ::
        Change.effects (drainNotices kind entry.assignment.subject result) ++
          releasing task name kind entry)) =
        if entry.lockReleased then [] else [.called task entry.release] := by
      simp [Change.effect?, Account.ofEffects_append, apply_ite Account.ofEffects,
        PullEntry.release,
        Mark.ofEffect?]
    rw [← lines]
    exact told
  · rw [releasing_entries task kind there other, same.1]
  · unfold releasing at found
    split at found
    · have gone := (get?_finish reported task .done).1
      exact absurd (found.symm.trans gone) (Option.some_ne_none next)
    · exact Option.some.inj (found.symm.trans (get?_setTask _ task _))

/-- What an event does about entries is one of the cases of `Handles`. -/
theorem Proper.handles (proper : world.Proper) (event : Event) :
    world.Handles event (world.step event).1 := by
  by_cases aside : world.LeavesEntries event
  · exact .aside aside (proper.keepsEntries aside)
  · cases event with
    | openEntry assignment consume =>
        obtain ⟨entry, lists⟩ := proper.lists assignment consume
        exact .lists assignment consume lists
    | proceed task draw =>
        obtain ⟨target, kind, stage, own⟩ := not_leavesEntries_proceed aside
        have waits : (world.step (.proceed task draw)).1 = world →
            (stage = .begun → world.entries.get? target = none) →
            world.Handles (.proceed task draw) (world.step (.proceed task draw)).1 := by
          intro same unbegun
          rw [same]
          exact .waits draw own unbegun
        cases stage with
        | begun =>
            cases present : world.entries.get? target with
            | none =>
                refine waits ?_ fun _ => present
                simp only [World.step, proceed, own, beginHandBack, present]
            | some entry => exact .begins draw own present (proper.begins draw own present)
        | draining drain =>
            cases ended : world.results.get? drain with
            | none =>
                refine waits ?_ fun begun => ?_
                · simp only [World.step, proceed, own, concludeHandBack, ended]
                · cases begun
            | some result =>
                cases present : world.entries.get? target with
                | none =>
                    refine waits ?_ fun begun => ?_
                    · simp only [World.step, proceed, own, concludeHandBack, ended, present]
                    · cases begun
                | some entry =>
                    exact .concludes draw own present (proper.concludes draw own ended present)
        | releasing =>
            refine waits ?_ fun begun => ?_
            · simp only [World.step, proceed, own]
            · cases begun
    | _ => exact absurd trivial aside

end World

end PullConsumer
