import PullConsumer.Settings.Basic

/-! # The named fields of settings

Settings are written as named numbers and a map of subjects. A draft takes fields in any order,
refuses one that comes twice, ignores unknown names, and starts from the standard settings.
-/

namespace PullConsumer

/-- The settings that are numbers. -/
inductive SettingField
  | pullRequestTimeout
  | ackFlushInterval
  | ackBatchSize
  | destroyDrainTimeout
  | offlineFlushTimeout
  | retryBaseBackoff
  | retryMaxBackoff
deriving DecidableEq

namespace SettingField

/-- All number settings, in the order in which they are written. -/
def all : List SettingField :=
  [.pullRequestTimeout, .ackFlushInterval, .ackBatchSize, .destroyDrainTimeout,
    .offlineFlushTimeout, .retryBaseBackoff, .retryMaxBackoff]

/-- The written name. -/
def name : SettingField → String
  | .pullRequestTimeout => "pull_request_timeout_ms"
  | .ackFlushInterval => "ack_flush_interval_ms"
  | .ackBatchSize => "ack_batch_size"
  | .destroyDrainTimeout => "destroy_drain_timeout_ms"
  | .offlineFlushTimeout => "offline_flush_timeout_ms"
  | .retryBaseBackoff => "retry_base_backoff_ms"
  | .retryMaxBackoff => "retry_max_backoff_ms"

def named? (name : String) : Option SettingField :=
  all.find? fun field => field.name = name

/-- What a number setting is expected to be: a duration, or a size. -/
def expected : SettingField → String
  | .ackBatchSize => "usize"
  | _ => "u64"

end SettingField

/-- The written name of the map of subjects. -/
def subjectsField : String := "subjects"

/-- The written name of a subject's own timeout. -/
def subjectTimeoutField : String := "pull_request_timeout_ms"

namespace Settings

def number (settings : Settings) : SettingField → UInt64
  | .pullRequestTimeout => settings.pullRequestTimeout
  | .ackFlushInterval => settings.ackFlushInterval
  | .ackBatchSize => settings.ackBatchSize
  | .destroyDrainTimeout => settings.destroyDrainTimeout
  | .offlineFlushTimeout => settings.offlineFlushTimeout
  | .retryBaseBackoff => settings.retryBaseBackoff
  | .retryMaxBackoff => settings.retryMaxBackoff

def setNumber (settings : Settings) (value : UInt64) : SettingField → Settings
  | .pullRequestTimeout => { settings with pullRequestTimeout := value }
  | .ackFlushInterval => { settings with ackFlushInterval := value }
  | .ackBatchSize => { settings with ackBatchSize := value }
  | .destroyDrainTimeout => { settings with destroyDrainTimeout := value }
  | .offlineFlushTimeout => { settings with offlineFlushTimeout := value }
  | .retryBaseBackoff => { settings with retryBaseBackoff := value }
  | .retryMaxBackoff => { settings with retryMaxBackoff := value }

/-- A set number reads back, and other numbers read as before. -/
theorem number_setNumber (settings : Settings) (value : UInt64) (field other : SettingField) :
    (settings.setNumber value field).number other =
      if field = other then value else settings.number other := by
  cases field <;> cases other <;> rfl

end Settings

/-- Settings of which some fields were given. -/
structure SettingsDraft where
  settings : Settings
  given : List String

namespace SettingsDraft

def empty : SettingsDraft := ⟨.standard, []⟩

/-- How the values of a notation are read. -/
structure Reader (ν ε : Type) where
  number : SettingField → ν → Except ε UInt64
  subjects : ν → Except ε (Dictionary SubjectSettings)
  /-- A field that no setting has is skipped. -/
  skip : ν → Except ε Unit
  duplicate : String → ε

/-- Takes one field. -/
def add {ν ε : Type} (reader : Reader ν ε) (draft : SettingsDraft) (name : String) (value : ν) :
    Except ε SettingsDraft :=
  if name ∈ draft.given then .error (reader.duplicate name)
  else match SettingField.named? name with
    | some field => do
      let number ← reader.number field value
      return ⟨draft.settings.setNumber number field, name :: draft.given⟩
    | none =>
      if name = subjectsField then do
        let subjects ← reader.subjects value
        return ⟨{ draft.settings with subjects := subjects }, name :: draft.given⟩
      else do
        reader.skip value
        return draft

end SettingsDraft

end PullConsumer
