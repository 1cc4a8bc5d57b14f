import PullConsumer.Settings.Fields
import PullConsumer.Yaml.Document
import PullConsumer.Yaml.Meaning

/-! # Settings as a document

Settings are the root of a document. A fault of shape is reported with the path of the place where
it was found, and comes before the fault of a text that is malformed later on.
-/

namespace PullConsumer

open Yaml

/-- What is wrong with a document that should hold settings. -/
inductive DocumentFault
  /-- The text is malformed, or ends too early. -/
  | malformed
  /-- A second document follows. -/
  | furtherDocument
  | shape (path : List String) (fault : ShapeFault)
deriving DecidableEq

/-- The wording of a fault. -/
def DocumentFault.message : DocumentFault → String
  | .malformed => "malformed text"
  | .furtherDocument => "more than one document"
  | .shape path fault =>
    if path.isEmpty then fault.message else ".".intercalate path ++ ": " ++ fault.message

namespace Yaml.Document

/-- The result of reading part of a document. -/
abbrev Reading (α : Type) := Except DocumentFault α

/-- Refuses a node that is something else than is expected. -/
def refuse {α : Type} (path : List String) (expected : String) : Node → Reading α
  | .scalar tag text style => .error (.shape path (scalarFault tag text style expected))
  | .sequence _ => .error (.shape path (.invalidType .sequence expected))
  | .mapping _ => .error (.shape path (.invalidType .map expected))
  | .alias _ | .cut => .error .malformed

/-- How a key shows in a path. Only a scalar shows itself. -/
def segment : Node → String
  | .scalar _ text _ => text
  | _ => "?"

variable (document : Document)

/-- Reads a text; a scalar of any meaning is a text. -/
def readText (path : List String) (expected : String) (node : Node) : Reading String :=
  match document.follow node with
  | .scalar _ text _ => .ok text
  | other => refuse path expected other

/-- The members of a mapping; nothing stands for a mapping without members. -/
def readMembers (path : List String) (expected : String) (node : Node) :
    Reading (List (Node × Node)) :=
  match document.follow node with
  | .mapping members => .ok members
  | .scalar tag text style =>
    if text = "" ∧ style = .plain then .ok []
    else refuse path expected (.scalar tag text style)
  | other => refuse path expected other

/-- Whether a scalar may spell an integer: it is plain, or literal with the tag of integers. -/
def maySpellInteger (tag : Option String) (style : ScalarStyle) : Bool :=
  style == .plain || (style == .literal && tag == some CoreTag.int.text)

/-- Reads an unsigned number of 64 bits. -/
def readNumber (path : List String) (expected : String) (node : Node) : Reading UInt64 :=
  match document.follow node with
  | .scalar tag text style =>
    match if maySpellInteger tag style then uint64? text else none with
    | some value => .ok value
    | none => refuse path expected (.scalar tag text style)
  | other => refuse path expected other

/-- Whether a plain scalar spells nothing; a tag of nothing allows no other spelling. -/
def isNothing (path : List String) (tag : Option String) (text : String) : Reading Bool :=
  match tag with
  | none => .ok (text = "" || isNull text)
  | some tag =>
    if tag = CoreTag.null.text then
      if isNull text then .ok true
      else .error (.shape path (.invalidValue (.string text) CoreTag.null.expected))
    else .ok false

/-- Reads an optional number: the member of a mapping with a path of its own. -/
def readOptionalNumber (path : List String) (key node : Node) : Reading (Option UInt64) := do
  let missing ←
    match document.follow node with
    | .scalar tag text .plain => isNothing path tag text
    | _ => pure false
  if missing then return none
  else return some (← document.readNumber (path ++ [segment key]) "u64" node)

/-- Passes over a node. -/
def skip (node : Node) : Reading Unit :=
  if node.isWhole then .ok () else .error .malformed

/-- Reads the members of a subject's settings in order. -/
def readSubjectMembers (path : List String) (read : Option (Option UInt64)) :
    List (Node × Node) → Reading SubjectSettings
  | [] => .ok ⟨read.getD none⟩
  | (key, value) :: rest => do
    let name ← document.readText path "field identifier" key
    if name = subjectTimeoutField then
      if read.isSome then .error (.shape path (.duplicateField name))
      else
        let timeout ← document.readOptionalNumber path key value
        readSubjectMembers path (some timeout) rest
    else
      skip value
      readSubjectMembers path read rest

def readSubject (path : List String) (node : Node) : Reading SubjectSettings := do
  document.readSubjectMembers path none
    (← document.readMembers path "struct SubjectConfig" node)

/-- Reads the settings of subjects in order; of two with one name the later wins. -/
def readSubjectEntries (path : List String) (read : Dictionary SubjectSettings) :
    List (Node × Node) → Reading (Dictionary SubjectSettings)
  | [] => .ok read
  | (key, value) :: rest => do
    let name ← document.readText path "a string" key
    let subject ← document.readSubject (path ++ [segment key]) value
    readSubjectEntries path (read.insert name subject) rest

/-- Reads the map of subjects. -/
def readSubjects (path : List String) (node : Node) : Reading (Dictionary SubjectSettings) := do
  document.readSubjectEntries path .empty (← document.readMembers path "a map" node)

def settingsReader (key : Node) : SettingsDraft.Reader Node DocumentFault where
  number := fun field node => document.readNumber [segment key] field.expected node
  subjects := fun node => document.readSubjects [segment key] node
  skip := skip
  duplicate := fun name => .shape [] (.duplicateField name)

def readSettingsMembers (draft : SettingsDraft) : List (Node × Node) → Reading Settings
  | [] => .ok draft.settings
  | (key, value) :: rest => do
    let name ← document.readText [] "field identifier" key
    let next ← draft.add (document.settingsReader key) name value
    readSettingsMembers next rest

/-- Reads the settings of the root, which may be missing. -/
def readRoot : Reading Settings :=
  match document.root with
  | none => .ok .standard
  | some node => do
    document.readSettingsMembers .empty
      (← document.readMembers [] "struct ClientConfig" node)

/-- Reads settings from a document that is alone in its text. -/
def readSettings : Reading Settings := do
  let settings ← document.readRoot
  match document.ending with
  | .textEnd => return settings
  | .furtherDocument => .error .furtherDocument
  | .malformed => .error .malformed

end Yaml.Document

end PullConsumer
