import PullConsumer.Fault
import PullConsumer.Settings.Document

/-! # Where settings come from

Settings are read from a text, or from a file that holds one.
-/

namespace PullConsumer.Settings

/-- What stands at the place of a settings file. -/
inductive Source
  | missing
  | directory
  | bytes (content : List UInt8)

def ofText (content : String) : Except Fault Settings :=
  (Yaml.Document.ofText content.toList).readSettings.mapError fun fault =>
    .configuration fault.message

def Source.text : Source → Except Fault String
  | .missing => .error (.unreadable "No such file or directory (os error 2)")
  | .directory => .error (.unreadable "Is a directory (os error 21)")
  | .bytes content =>
    match String.fromUTF8? (ByteArray.mk content.toArray) with
    | some text => .ok text
    | none => .error (.unreadable "stream did not contain valid UTF-8")

/-- Reads settings from a file. -/
def load (source : Source) : Except Fault Settings := do
  ofText (← source.text)

end PullConsumer.Settings
