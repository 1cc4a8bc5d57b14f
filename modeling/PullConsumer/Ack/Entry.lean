import PullConsumer.Message

/-! # Acknowledgment entries

One entry per registered pull offset. It starts pending; the first resolution that reaches it wins,
and a failed consumption counts as completed once the message is back at the broker.
-/

namespace PullConsumer

/-- How far one pull offset has come. -/
inductive AckState
  /-- Delivered, and not resolved by the application yet. -/
  | pending
  /-- Acknowledged by the application, or rejected by the filter. -/
  | completed
  /-- Consumption failed: the message goes back to the broker before the entry counts as
  completed. -/
  | needRetry (message : Message)
deriving DecidableEq

/-- Whether the application still has to resolve the entry. -/
def AckState.isPending : AckState → Bool
  | .pending => true
  | _ => false

/-- The bookkeeping record of one pull offset. -/
structure AckEntry where
  offset : Int
  state : AckState
deriving DecidableEq

/-- What the application decides about a message. -/
inductive Verdict
  | complete
  | retry (message : Message)
deriving DecidableEq

/-- The state that a verdict moves a pending entry to. -/
def Verdict.state : Verdict → AckState
  | .complete => .completed
  | .retry message => .needRetry message

namespace AckEntry

/-- An entry as registration makes it. -/
def fresh (offset : Int) : AckEntry := ⟨offset, .pending⟩

/-- Moves a pending entry on; a resolved entry stays as it is. -/
def resolve (entry : AckEntry) (verdict : Verdict) : AckEntry :=
  if entry.state.isPending then { entry with state := verdict.state } else entry

/-- Notes that the message of the entry is back at the broker. -/
def markReturned (entry : AckEntry) : AckEntry :=
  { entry with state := .completed }

def changeAt (offset : Int) (change : AckEntry → AckEntry) (entries : List AckEntry) :
    List AckEntry :=
  entries.map fun entry => if entry.offset = offset then change entry else entry

/-- The state of an offset, if it is listed. -/
def stateAt? (offset : Int) (entries : List AckEntry) : Option AckState :=
  (entries.find? fun entry => entry.offset = offset).map AckEntry.state

@[simp] theorem offset_resolve (entry : AckEntry) (verdict : Verdict) :
    (entry.resolve verdict).offset = entry.offset := by
  unfold resolve
  split <;> rfl

@[simp] theorem offset_markReturned (entry : AckEntry) :
    entry.markReturned.offset = entry.offset := rfl

/-- A change that keeps the offset of every entry keeps the list of them. -/
theorem map_offset_changeAt (offset : Int) (change : AckEntry → AckEntry)
    (kept : ∀ entry, (change entry).offset = entry.offset) (entries : List AckEntry) :
    (changeAt offset change entries).map AckEntry.offset = entries.map AckEntry.offset := by
  unfold changeAt
  rw [List.map_map]
  refine List.map_congr_left fun entry _ => ?_
  simp only [Function.comp]
  split
  · exact kept entry
  · rfl

end AckEntry

end PullConsumer
