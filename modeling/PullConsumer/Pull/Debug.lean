import PullConsumer.Message
import PullConsumer.Text.Quoted

/-! # The full text of a delivered message -/

namespace PullConsumer.Message

/-- Words between an opening and a closing bracket, separated by commas. -/
def bracketed (opening closing : String) (items : List String) : String :=
  opening ++ ", ".intercalate items ++ closing

/-- The attributes in key order, quoted. -/
def attributeTexts (message : Message) : List String :=
  message.attributes.entries.map fun pair =>
    Text.quoted pair.1 ++ ": " ++ Text.quoted pair.2

/-- All fields of a message by name. -/
def fullText (message : Message) : String :=
  bracketed "BaseMessage \x7b " " \x7d" [
    "message_id: " ++ Text.quoted message.id,
    "subject: " ++ Text.quoted message.subject,
    "payload: " ++ bracketed "[" "]" (message.payload.map fun byte => toString byte.toNat),
    "attributes: " ++ bracketed "\x7b" "\x7d" message.attributeTexts]

/-- All fields of a message in the hands of the application, by name. -/
def deliveredText (message : Message) (offset : Int) (hasHook : Bool) : String :=
  bracketed "PulledMessage \x7b " " \x7d" [
    "message: " ++ message.fullText,
    s!"pull_offset: {offset}",
    s!"has_ack_hook: {hasHook}"]

end PullConsumer.Message
