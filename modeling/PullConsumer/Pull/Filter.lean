import PullConsumer.Message
import PullConsumer.Pull.Request

/-! # Message filters

Which pulled messages reach the application. The rules of a pull cycle follow from its request; a
message passes if every rule accepts it.
-/

namespace PullConsumer

/-- One reason to keep a message from the application. -/
inductive FilterRule
  /-- At-most-once delivery: a message that was delivered before is not delivered again. -/
  | suppressRedelivery
  /-- The payload failed to decode. -/
  | rejectCorrupt
  /-- The message names another consumer group. -/
  | requireGroup (group : String)
deriving DecidableEq

namespace FilterRule

/-- Whether a rule lets a message pass. -/
def accepts : FilterRule → Message → Bool
  | .suppressRedelivery, message => message.times ≤ 1
  | .rejectCorrupt, message => !message.isCorrupted
  | .requireGroup group, message => message.targetGroup?.all (· = group)

def ofRequest (request : PullRequest) : List FilterRule :=
  (if request.consume.mostOnce then [.suppressRedelivery] else []) ++
    [.rejectCorrupt, .requireGroup request.consume.group]

/-- Whether all rules let a message pass. -/
def allAccept (rules : List FilterRule) (message : Message) : Bool :=
  rules.all (·.accepts message)

end FilterRule

end PullConsumer
