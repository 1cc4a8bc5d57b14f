/-! # Faults

The ways in which an operation of a consumer fails, each with the data that tells one failure from
another, and the wording of each in one place.
-/

namespace PullConsumer

/-- How a partition is consumed by the members of a consumer group. -/
inductive Strategy
  | exclusive
  | shared
  | broadcast
  | ordered
deriving DecidableEq

/-- The attributes that carry a meaning for the consumer. -/
inductive MessageKey
  | times
  | pullOffset
  | corruptData
  | consumerGroupName
deriving DecidableEq

/-- The attribute name of a key; the common beginning keeps it apart from user attributes. -/
def MessageKey.name : MessageKey → String
  | .times => "pullq_times"
  | .pullOffset => "pullq_pull_offset"
  | .corruptData => "pullq_corrupt_data"
  | .consumerGroupName => "pullq_consumer_group_name"

/-- What is wrong with a message or a name. -/
inductive MessageFault
  | missingProperty (messageId : String) (key : MessageKey)
  | invalidProperty (messageId : String) (key : MessageKey) (value : String)
  | unknownStrategy (text : String)
deriving DecidableEq

def MessageFault.message : MessageFault → String
  | .missingProperty messageId key => s!"message {messageId} has no `{key.name}` property"
  | .invalidProperty messageId key value =>
    s!"message {messageId} has an invalid `{key.name}` property: {value}"
  | .unknownStrategy text => s!"unknown consume strategy: {text}"

/-- The failures of a consumer's operations. -/
inductive Fault
  | transport (text : String)
  | ackSend (text : String)
  | sendBack (text : String)
  | lockRelease (text : String)
  | offsetRegression (offset max : Int)
  | invalidMessage (cause : MessageFault)
  | entryDestroyed
  | placeholderEntry
  | metricsRecorder (text : String)
  | configuration (text : String)
  | unreadable (text : String)
  | unrecoverable (text : String)
deriving DecidableEq

namespace Fault

/-- The wording of a fault. -/
def message : Fault → String
  | .transport text => s!"transport error: {text}"
  | .ackSend text => s!"unable to send ack: {text}"
  | .sendBack text => s!"unable to send message back for redelivery: {text}"
  | .lockRelease text => s!"unable to release consumption lock: {text}"
  | .offsetRegression offset max => s!"pull offset {offset} does not advance past {max}"
  | .invalidMessage cause => s!"invalid message: {cause.message}"
  | .entryDestroyed => "pull entry has been destroyed"
  | .placeholderEntry => "placeholder pull entry has no subject"
  | .metricsRecorder text => s!"metrics recorder failed: {text}"
  | .configuration text => s!"unable to parse the configuration: {text}"
  | .unreadable text => s!"unable to load the configuration: {text}"
  | .unrecoverable text => s!"unable to perform operation: {text}"

/-- Failures of the pull request itself, as opposed to answers of the broker. -/
def isTransport : Fault → Bool
  | .transport _ => true
  | _ => false

end Fault

end PullConsumer
