import PullConsumer.Json.Value
import PullConsumer.Message
import PullConsumer.ResponseCode
import PullConsumer.Settings.Fields
import PullConsumer.Strategy

/-! # JSON forms of messages, codes and settings

A record is written as an object with all its fields and is read from an object, with unknown
members ignored, or from an array of its fields. A choice is written as its name, or as an object
with one member if it carries a value.
-/

namespace PullConsumer.Json

/-- The result of decoding. -/
abbrev Decoded (α : Type) := Except ShapeFault α

/-- Refuses a value. -/
def mismatch {α : Type} (value : Value) (expected : String) : Decoded α :=
  .error (.invalidType value.found expected)

def decodeString : Value → Decoded String
  | .string text => .ok text
  | value => mismatch value "a string"

/-- Reads an integer within bounds. -/
def decodeInteger (low high : Int) (expected : String) : Value → Decoded Int
  | .integer number =>
    if low ≤ number ∧ number ≤ high then .ok number
    else .error (.invalidValue (.integer number) expected)
  | value => mismatch value expected

/-- Reads an unsigned number of 64 bits. -/
def decodeUInt64 (expected : String) (value : Value) : Decoded UInt64 :=
  (decodeInteger 0 18446744073709551615 expected value).map fun number => UInt64.ofNat number.toNat

def decodeByte (value : Value) : Decoded UInt8 :=
  (decodeInteger 0 255 "u8" value).map fun number => UInt8.ofNat number.toNat

/-- Reads a signed number of 16 bits. -/
def decodeInt16 (value : Value) : Decoded Int16 :=
  (decodeInteger (-32768) 32767 "i16" value).map Int16.ofInt

/-- Reads the items of an array in order. -/
def decodeItems {α : Type} (item : Value → Decoded α) : List Value → Decoded (List α)
  | [] => .ok []
  | value :: rest => do
    let first ← item value
    let others ← decodeItems item rest
    return first :: others

def decodeBytes : Value → Decoded (List UInt8)
  | .array items => decodeItems decodeByte items
  | value => mismatch value "a sequence"

/-- Reads the members of an object in order; of two members with one name the later wins. -/
def decodeMembers {α : Type} (item : Value → Decoded α) (read : Dictionary α) :
    List (String × Value) → Decoded (Dictionary α)
  | [] => .ok read
  | (name, value) :: rest => do
    let first ← item value
    decodeMembers item (read.insert name first) rest

def decodeMap {α : Type} (item : Value → Decoded α) : Value → Decoded (Dictionary α)
  | .object members => decodeMembers item .empty members
  | value => mismatch value "a map"

/-- Writes a map as an object. -/
def encodeMap {α : Type} (item : α → Value) (map : Dictionary α) : Value :=
  .object (map.entries.map fun pair => (pair.1, item pair.2))

/-! ## Messages -/

/-- A message of which some fields were read. -/
structure MessageDraft where
  id : Option String
  subject : Option String
  payload : Option (List UInt8)
  attributes : Option (Dictionary String)

/-- Takes a field that must not have been read before. -/
def once {α : Type} (old : Option α) (name : String) (read : Decoded α) : Decoded (Option α) :=
  match old with
  | some _ => .error (.duplicateField name)
  | none => read.map some

/-- Takes one member of a message object. -/
def MessageDraft.add (draft : MessageDraft) (name : String) (value : Value) :
    Decoded MessageDraft :=
  match name with
  | "message_id" => do return { draft with id := ← once draft.id name (decodeString value) }
  | "subject" => do return { draft with subject := ← once draft.subject name (decodeString value) }
  | "payload" => do return { draft with payload := ← once draft.payload name (decodeBytes value) }
  | "attributes" => do
    return { draft with attributes := ← once draft.attributes name (decodeMap decodeString value) }
  | _ => .ok draft

/-- Takes the members of a message object in order. -/
def MessageDraft.addAll (draft : MessageDraft) : List (String × Value) → Decoded MessageDraft
  | [] => .ok draft
  | (name, value) :: rest => do
    let next ← draft.add name value
    next.addAll rest

def required {α : Type} (name : String) : Option α → Decoded α
  | some value => .ok value
  | none => .error (.missingField name)

/-- Completes a message; the first missing field is reported. -/
def MessageDraft.build (draft : MessageDraft) : Decoded Message := do
  let id ← required "message_id" draft.id
  let subject ← required "subject" draft.subject
  let payload ← required "payload" draft.payload
  let attributes ← required "attributes" draft.attributes
  return ⟨id, subject, payload, attributes⟩

/-- The fault of an array with too few fields. -/
def tooShort {α : Type} (length : Nat) (record : String) : Decoded α :=
  .error (.invalidLength length record)

/-- The fault of an array with too many fields. -/
def tooLong {α : Type} (length : Nat) : Decoded α :=
  .error (.invalidLength length "fewer elements in array")

def messageArray : String := "struct BaseMessage with 4 elements"

def decodeMessageItems (items : List Value) : Decoded Message :=
  match items with
  | [] => tooShort 0 messageArray
  | first :: rest => do
    let id ← decodeString first
    match rest with
    | [] => tooShort 1 messageArray
    | second :: rest => do
      let subject ← decodeString second
      match rest with
      | [] => tooShort 2 messageArray
      | third :: rest => do
        let payload ← decodeBytes third
        match rest with
        | [] => tooShort 3 messageArray
        | fourth :: rest => do
          let attributes ← decodeMap decodeString fourth
          if rest.isEmpty then return ⟨id, subject, payload, attributes⟩
          else tooLong items.length

def decodeMessage : Value → Decoded Message
  | .object members => do
    let draft ← (⟨none, none, none, none⟩ : MessageDraft).addAll members
    draft.build
  | .array items => decodeMessageItems items
  | value => mismatch value "struct BaseMessage"

/-- Writes a message. -/
def encodeMessage (message : Message) : Value :=
  .object [
    ("message_id", .string message.id),
    ("subject", .string message.subject),
    ("payload", .array (message.payload.map fun byte => .integer byte.toNat)),
    ("attributes", encodeMap .string message.attributes)]

/-! ## Choices -/

/-- Reads the name of a choice and the value that it carries, if any. -/
def decodeChoice : Value → Decoded (String × Option Value)
  | .string name => .ok (name, none)
  | .object [(name, value)] => .ok (name, some value)
  | .object _ => .error (.invalidValue .map "map with a single key")
  | value => mismatch value "string or map"

/-- Reads the absence of a carried value. -/
def decodeUnit : Option Value → Decoded Unit
  | none | some .null => .ok ()
  | some value => mismatch value "unit"

/-- Reads one of several choices without a carried value. -/
def decodeName {α : Type} (all : List α) (name : α → String) (value : Value) : Decoded α := do
  let (text, carried) ← decodeChoice value
  match all.find? fun choice => name choice = text with
  | none => .error (.unknownVariant text (all.map name))
  | some choice => do
    decodeUnit carried
    return choice

def decodeStrategy (value : Value) : Decoded Strategy :=
  decodeName Strategy.all Strategy.name value

/-- Writes a strategy. -/
def encodeStrategy (strategy : Strategy) : Value :=
  .string strategy.name

def clientKindName : ClientKind → String
  | .producer => "Producer"
  | .consumer => "Consumer"

def decodeClientKind (value : Value) : Decoded ClientKind :=
  decodeName [.producer, .consumer] clientKindName value

/-- Writes a client kind. -/
def encodeClientKind (kind : ClientKind) : Value :=
  .string (clientKindName kind)

def responseCodeNames : List String :=
  ["Success", "BrokerReject", "AcquireLockFailed", "Other"]

def decodeResponseCode (value : Value) : Decoded ResponseCode := do
  let (text, carried) ← decodeChoice value
  match text with
  | "Success" => do
    decodeUnit carried
    return .success
  | "BrokerReject" => do
    decodeUnit carried
    return .brokerReject
  | "AcquireLockFailed" => do
    decodeUnit carried
    return .acquireLockFailed
  | "Other" =>
    match carried with
    | none => .error (.invalidType .unitVariant "newtype variant")
    | some inner => (decodeInt16 inner).map ResponseCode.other
  | _ => .error (.unknownVariant text responseCodeNames)

def encodeResponseCode : ResponseCode → Value
  | .success => .string "Success"
  | .brokerReject => .string "BrokerReject"
  | .acquireLockFailed => .string "AcquireLockFailed"
  | .other code => .object [("Other", .integer code.toInt)]

/-! ## Settings -/

/-- Reads an optional number of 64 bits. -/
def decodeOptionalUInt64 : Value → Decoded (Option UInt64)
  | .null => .ok none
  | value => (decodeUInt64 "u64" value).map some

/-- Takes the members of a subject's settings in order. -/
def decodeSubjectMembers (read : Option (Option UInt64)) :
    List (String × Value) → Decoded SubjectSettings
  | [] => .ok ⟨read.getD none⟩
  | (name, value) :: rest =>
    if name = subjectTimeoutField then do
      let timeout ← once read name (decodeOptionalUInt64 value)
      decodeSubjectMembers timeout rest
    else decodeSubjectMembers read rest

def decodeSubject : Value → Decoded SubjectSettings
  | .object members => decodeSubjectMembers none members
  | .array [] => tooShort 0 "struct SubjectConfig with 1 element"
  | .array (first :: rest) => do
    let timeout ← decodeOptionalUInt64 first
    if rest.isEmpty then return ⟨timeout⟩ else tooLong (rest.length + 1)
  | value => mismatch value "struct SubjectConfig"

def encodeSubject (subject : SubjectSettings) : Value :=
  .object [(subjectTimeoutField,
    match subject.pullRequestTimeout with
    | some timeout => .integer timeout.toNat
    | none => .null)]

/-- How settings are read from JSON. -/
def settingsReader : SettingsDraft.Reader Value ShapeFault where
  number := fun field value => decodeUInt64 field.expected value
  subjects := decodeMap decodeSubject
  skip := fun _ => .ok ()
  duplicate := .duplicateField

/-- Takes the members of settings in order. -/
def decodeSettingsMembers (draft : SettingsDraft) : List (String × Value) → Decoded Settings
  | [] => .ok draft.settings
  | (name, value) :: rest => do
    let next ← draft.add settingsReader name value
    decodeSettingsMembers next rest

/-- Takes the items of a settings array of a given length; fields that do not come keep their
standard. -/
def decodeSettingsItems (length : Nat) (draft : SettingsDraft) :
    List String → List Value → Decoded Settings
  | name :: names, value :: rest => do
    let next ← draft.add settingsReader name value
    decodeSettingsItems length next names rest
  | [], _ :: _ => tooLong length
  | _, [] => .ok draft.settings

/-- The fields of settings, in the order in which they are written. -/
def settingsFields : List String :=
  SettingField.all.map SettingField.name ++ [subjectsField]

def decodeSettings : Value → Decoded Settings
  | .object members => decodeSettingsMembers .empty members
  | .array items => decodeSettingsItems items.length .empty settingsFields items
  | value => mismatch value "struct ClientConfig"

/-- Writes settings. -/
def encodeSettings (settings : Settings) : Value :=
  .object ((SettingField.all.map fun field =>
    (field.name, .integer (settings.number field).toNat)) ++
      [(subjectsField, encodeMap encodeSubject settings.subjects)])

end PullConsumer.Json
