import PullConsumer.Ack.Queue

/-! # Intake of a pulled batch

Every message of a batch is registered in turn. A message that the queue refuses is dropped without
acknowledgment; one that the filter rejects is completed on the spot; the rest is delivered.
-/

namespace PullConsumer

/-- A message that was registered and passed the filter, with its offset. -/
structure Accepted where
  message : Message
  offset : Int
deriving DecidableEq

/-- A queue after the intake of a batch, with the messages to deliver and the effects. -/
structure Intake where
  queue : AckQueue
  accepted : List Accepted
  effects : List Effect

/-- Takes in a batch on behalf of a subject. -/
def AckQueue.receive (queue : AckQueue) (subject : String) (accepts : Message → Bool) :
    List Message → Intake
  | [] => ⟨queue, [], []⟩
  | message :: rest =>
    match queue.admits message with
    | .error fault =>
      let next := queue.receive subject accepts rest
      { next with
        effects := [.notice (.registrationRefused subject message.id fault)] ++ next.effects }
    | .ok offset =>
      if accepts message then
        let next := (queue.append offset).receive subject accepts rest
        { next with accepted := ⟨message, offset⟩ :: next.accepted }
      else
        let (resolved, effects) := (queue.append offset).resolve offset .complete
        let next := resolved.receive subject accepts rest
        { next with
          effects := [.notice (.messageFiltered subject message.id)] ++ effects ++ next.effects }

end PullConsumer
