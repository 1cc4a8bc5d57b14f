import PullConsumer.Proofs.Client.Ledger
import PullConsumer.Proofs.Client.Lines
import PullConsumer.Proofs.Client.Independence

/-! # A broken recorder

A recorder may break and work again at any point of a run. Next to the run of the same events under
a recorder that always works, this costs increments, with a warning for each, and nothing else: the
states are the same, the operations reply the same, and the same calls are made
(`World.run_muffled`).
-/

namespace PullConsumer

/-- Two accounts, the latest first, of which the second may have lost increments: each of those left
the failure of the recorder and a warning. -/
inductive Muffled : List Effect → List Effect → Prop
  | nil : Muffled [] []
  | same (effect : Effect) {first second : List Effect} (rest : Muffled first second) :
      Muffled (effect :: first) (effect :: second)
  | lost (metric : Metric) (labels : Labels) (amount : Nat) {first second : List Effect}
      (rest : Muffled first second) :
      Muffled (.counted metric labels amount :: first)
        (.notice (.bestEffortFailed metric.context (.metricsRecorder metric.name)) ::
          .recorderFailed metric :: second)

namespace Muffled

variable {first second : List Effect}

theorem refl : (effects : List Effect) → Muffled effects effects
  | [] => .nil
  | effect :: rest => .same effect (refl rest)

/-- Muffled effects in a row are muffled. -/
theorem append {later after : List Effect} (muffled : Muffled later after)
    (earlier : Muffled first second) : Muffled (later ++ first) (after ++ second) := by
  induction muffled with
  | nil => exact earlier
  | same effect _ ih => exact .same effect ih
  | lost metric labels amount _ ih => exact .lost metric labels amount ih

/-- Increments are lost only where the account is rewritten without them. -/
theorem written (works : Bool) (effects : List Effect) :
    Muffled effects (effects.flatMap (Effect.written works)) := by
  induction effects with
  | nil => exact .nil
  | cons effect rest ih =>
      cases effect with
      | counted metric labels amount =>
          cases works with
          | true => exact .same _ ih
          | false => exact .lost metric labels amount ih
      | notice | recorderFailed | called | answered | responded | hooked | woken =>
          exact .same _ ih

/-- No call and no answer is lost. -/
theorem lines (muffled : Muffled first second) :
    Account.ofEffects second = Account.ofEffects first := by
  induction muffled with
  | nil => rfl
  | same effect _ ih =>
      have split : ∀ rest, Account.ofEffects (effect :: rest) =
          (Mark.ofEffect? effect).toList ++ Account.ofEffects rest := by
        intro rest
        cases effect <;> rfl
      rw [split, split, ih]
  | lost _ _ _ _ ih => exact ih

end Muffled

/-- A recorder that works takes every increment. -/
theorem Effect.flatMap_written_true (effects : List Effect) :
    effects.flatMap (Effect.written true) = effects := by
  have kept : ∀ effect, Effect.written true effect = [effect] := by
    intro effect
    cases effect <;> rfl
  induction effects with
  | nil => rfl
  | cons effect rest ih => rw [List.flatMap_cons, kept, ih, List.singleton_append]

/-- Whether an event breaks the recorder or mends it. -/
def Event.setsRecorder : Event → Bool
  | .setRecorder _ => true
  | _ => false

/-- Only one event sets the recorder. -/
theorem Event.ne_setRecorder {event : Event} (ordinary : event.setsRecorder = false)
    (works : Bool) : event ≠ .setRecorder works := by
  rintro rfl
  exact nomatch ordinary

namespace World

/-- What the operations of a run return, in their order. -/
def replies : World → List Event → List Reply
  | _, [] => []
  | world, event :: rest =>
    let later := replies (world.step event).1 rest
    if event.setsRecorder then later else (world.step event).2 :: later

/-- Two clients that differ in their recorders and in lost increments at most. -/
structure Muffles (first second : World) : Prop where
  /-- The first recorder works. -/
  works : first.recorderWorks = true
  /-- Queues, entries, groups, settings, tasks, results and time are the same. -/
  state : second =
    { first with recorderWorks := second.recorderWorks, history := second.history }
  history : Muffled first.history second.history

variable {first second : World} {event : Event}

theorem Muffles.refl (works : first.recorderWorks = true) : Muffles first first where
  works := works
  state := rfl
  history := .refl first.history

/-- Only its own event breaks a recorder or mends it. -/
theorem step_recorderWorks (world : World) (ordinary : event.setsRecorder = false) :
    (world.step event).1.recorderWorks = world.recorderWorks := by
  have kept : ∀ (ledger : Ledger) increments, (ledger.enter increments).works = ledger.works := by
    intro ledger increments
    unfold Ledger.enter
    split <;> rfl
  have entered := world.ledger_step event (Event.ne_setRecorder ordinary)
  exact (congrArg Ledger.works entered).trans (kept world.ledger _)

/-- A step does the same under both recorders, up to the increment that the second may lose. -/
theorem Muffles.step (muffles : Muffles first second) (ordinary : event.setsRecorder = false) :
    (second.step event).2 = (first.step event).2 ∧
      Muffles (first.step event).1 (second.step event).1 := by
  -- Both clients are told from one without a past.
  let bare : World := { first with history := [] }
  have told : bare.rewritten true first.history = first := by
    simp only [bare, rewritten, Bool.and_true, List.flatMap_nil, List.nil_append]
  have retells : bare.rewritten second.recorderWorks second.history = second := by
    rw [muffles.state]
    simp only [bare, rewritten, muffles.works, Bool.true_and, List.flatMap_nil, List.nil_append]
  have keeps := Event.ne_setRecorder ordinary
  have left : (bare.rewritten true first.history).step event = _ := bare.rewritten_step event keeps
  have right : (bare.rewritten second.recorderWorks second.history).step event = _ :=
    bare.rewritten_step event keeps
  rw [told] at left
  rw [retells] at right
  refine ⟨by rw [left, right], ?_, ?_, ?_⟩
  · rw [first.step_recorderWorks ordinary, muffles.works]
  · rw [left, right]
    rfl
  · rw [left, right]
    simp only [rewritten, Effect.flatMap_written_true]
    exact (Muffled.written _ _).append muffles.history

/-- Breaking the second recorder or mending it leaves the clients as they are. -/
theorem Muffles.set (muffles : Muffles first second) (works : Bool) :
    Muffles first (second.step (.setRecorder works)).1 where
  works := muffles.works
  state := by
    change { second with recorderWorks := works } = _
    rw [muffles.state]
    rfl
  history := muffles.history

/-- Two runs of the same events of which only the second hears of the state of its recorder. -/
theorem Muffles.run (muffles : Muffles first second) (events : List Event) :
    replies second events = replies first (events.filter (!·.setsRecorder)) ∧
      Muffles (first.run (events.filter (!·.setsRecorder))) (second.run events) := by
  induction events generalizing first second with
  | nil => exact ⟨rfl, muffles⟩
  | cons event rest ih =>
      cases sets : event.setsRecorder with
      | true =>
          cases event with
          | setRecorder works => exact ih (muffles.set works)
          | _ => exact nomatch sets
      | false =>
          obtain ⟨same, later⟩ := muffles.step sets
          obtain ⟨replied, reached⟩ := ih later
          simp only [replies, sets, Bool.not_false, List.filter_cons, if_true, Bool.false_eq_true,
            if_false, same, replied]
          exact ⟨trivial, reached⟩

/-- An event makes one increment at most. -/
theorem increments_step (world : World) (ordinary : event.setsRecorder = false) :
    ∃ increment : Option Increment, Increment.ofEffects (world.step event).1.history =
      increment.toList ++ Increment.ofEffects world.history := by
  have entered := congrArg Ledger.increments
    (world.ledger_step event (Event.ne_setRecorder ordinary))
  obtain ⟨increment, owes⟩ := world.owed_eq_toList event
  change Increment.ofEffects (world.step event).1.history = _ at entered
  rw [entered, owes]
  cases works : world.recorderWorks with
  | true =>
      refine ⟨increment, ?_⟩
      cases increment <;> simp [Ledger.enter, ledger, works]
  | false => exact ⟨none, by simp [Ledger.enter, ledger, works]⟩

/-- **A broken recorder costs increments only.** The events of a run are taken twice: with a
recorder that breaks and works again as they say, and with one that always works. After every one of
them the states agree, the operations have replied the same, and the same calls have been made and
answered in the same order; some increments have turned into warnings. As an event makes one
increment at most, and the recorder may break before it and work again after it, any of them may be
lost. -/
theorem run_muffled (epoch : Nat) (settings : Settings) (events : List Event) :
    let start := initial epoch settings
    let heard := events.filter (!·.setsRecorder)
    replies start events = replies start heard ∧ Muffles (start.run heard) (start.run events) ∧
      Account.ofEffects (start.run events).history = Account.ofEffects (start.run heard).history ∧
      ∀ event : Event, event.setsRecorder = false → ∃ increment : Option Increment,
        Increment.ofEffects ((start.run heard).step event).1.history =
          increment.toList ++ Increment.ofEffects (start.run heard).history := by
  have same : Muffles (initial epoch settings) (initial epoch settings) := .refl rfl
  obtain ⟨replied, muffles⟩ := same.run events
  exact ⟨replied, muffles, muffles.history.lines, fun _ ordinary => increments_step _ ordinary⟩

/-- Of two failed pulls the recorder misses the first. -/
example :
    let client := (initial 0 .standard).run
      [.openEntry (.ofNames "s" "g" "p" "b" "c" .shared) (.ofNames "s" "g" "c"),
        .setRecorder false, .markFailed 0 ⟨"b", 0⟩, .setRecorder true, .markFailed 0 ⟨"b", 0⟩]
    Increment.ofEffects client.history = [⟨.pullFail, ⟨"s", "g", none⟩, 1⟩] := rfl

end World

end PullConsumer
