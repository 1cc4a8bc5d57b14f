import PullConsumer.Ack.Window
import PullConsumer.Assignment
import PullConsumer.Broker.Registry

/-! # Pull requests

One request to a broker group, made anew for every pull cycle. A draft collects its parts; consumer,
broker group, partition and strategy are required, in this order, and the rest starts at zero.
-/

namespace PullConsumer

/-- A request for messages of one partition. Durations are in milliseconds. -/
structure PullRequest where
  consume : ConsumeParam
  brokerGroup : GroupRef
  batchSize : Nat
  /-- How long the broker may wait for messages. -/
  timeout : Nat
  /-- How long the client waits for the response. -/
  requestTimeout : Nat
  window : AckWindow
  partition : String
  strategy : Strategy
  version : Int32
deriving DecidableEq

/-- A request of which parts may be missing. -/
structure PullDraft where
  consume : Option ConsumeParam
  brokerGroup : Option GroupRef
  batchSize : Nat
  timeout : Nat
  requestTimeout : Nat
  window : AckWindow
  partition : Option String
  strategy : Option Strategy
  version : Int32

namespace PullDraft

/-- The draft without parts. -/
def empty : PullDraft := ⟨none, none, 0, 0, 0, .initial, none, none, 0⟩

def require {α : Type} (part : Option α) (name : String) : Except Fault α :=
  match part with
  | some value => .ok value
  | none => .error (.unrecoverable s!"{name} is required to build a PullParam")

/-- Completes a draft; the first missing part is reported. -/
def build (draft : PullDraft) : Except Fault PullRequest := do
  let consume ← require draft.consume "consume param"
  let brokerGroup ← require draft.brokerGroup "broker group"
  let partition ← require draft.partition "partition name"
  let strategy ← require draft.strategy "consume strategy"
  return ⟨consume, brokerGroup, draft.batchSize, draft.timeout, draft.requestTimeout, draft.window,
    partition, strategy, draft.version⟩

end PullDraft

end PullConsumer
