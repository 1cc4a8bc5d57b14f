import PullConsumer.Dictionary
import PullConsumer.Fault
import PullConsumer.Text.Numeral

/-! # Messages

A message as it comes out of a pull response. Its attributes are text; four of them have a meaning
for the consumer and are decoded here, two of them leniently: an unreadable delivery count counts
as a first delivery, an unreadable truth value as false.
-/

namespace PullConsumer

/-- A message before any filtering. -/
structure Message where
  id : String
  subject : String
  payload : List UInt8
  attributes : Dictionary String
deriving DecidableEq

namespace Message

instance : Inhabited Message := ⟨⟨"", "", [], .empty⟩⟩

/-- Sets an attribute. -/
def setProperty (message : Message) (key value : String) : Message :=
  { message with attributes := message.attributes.insert key value }

/-- Sets an attribute that has a meaning for the consumer. -/
def setKey (message : Message) (key : MessageKey) (value : String) : Message :=
  message.setProperty key.name value

/-- The text of an attribute. -/
def property? (message : Message) (key : String) : Option String :=
  message.attributes.get? key

/-- Whether two texts are equal when ASCII case is ignored. -/
def equalIgnoringCase (left right : String) : Bool :=
  left.toList.map Char.toLower == right.toList.map Char.toLower

/-- An attribute as a truth value: absent or unreadable text counts as false. -/
def flag (message : Message) (key : String) : Bool :=
  (message.property? key).elim false fun text => equalIgnoringCase text "true"

/-- How many times the broker has delivered the message; 1 unless a readable count says
otherwise. -/
def times (message : Message) : Nat :=
  ((message.property? MessageKey.times.name).bind Text.Numeral.unsigned?).getD 1

/-- The place of the message in the pull sequence. -/
def pullOffset (message : Message) : Except MessageFault Int :=
  match message.property? MessageKey.pullOffset.name with
  | none => .error (.missingProperty message.id .pullOffset)
  | some text =>
    match Text.Numeral.signed? text with
    | some offset => .ok offset
    | none => .error (.invalidProperty message.id .pullOffset text)

/-- Whether the payload failed to decode before the message came here. -/
def isCorrupted (message : Message) : Bool :=
  message.flag MessageKey.corruptData.name

/-- The only consumer group that may see the message, if one is named. -/
def targetGroup? (message : Message) : Option String :=
  (message.property? MessageKey.consumerGroupName.name).filter (· ≠ "")

/-- The short text of a message. -/
def label (message : Message) : String :=
  s!"subject:_{message.subject}_msg_id:_{message.id}"

/-- A set attribute reads back, and other attributes read as before. -/
@[simp] theorem property?_setProperty (message : Message) (key other value : String) :
    (message.setProperty key value).property? other =
      if key = other then some value else message.property? other :=
  Dictionary.get?_insert message.attributes key other value

end Message

end PullConsumer
