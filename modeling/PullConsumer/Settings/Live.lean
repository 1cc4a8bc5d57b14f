import PullConsumer.Settings.Basic

/-! # Settings that change while in use

A versioned value counts its writes. Live settings hold the settings applied last and, for every
subject that was ever asked for, one versioned pull timeout that all its readers share.
-/

namespace PullConsumer

/-- A value and the number of writes before it. -/
structure Versioned (α : Type) where
  version : Nat
  value : α
deriving DecidableEq

namespace Versioned

variable {α : Type}

/-- A value that was never written over. -/
def initial (value : α) : Versioned α := ⟨0, value⟩

def write (cell : Versioned α) (value : α) : Versioned α := ⟨cell.version + 1, value⟩

end Versioned

/-- A subject whose timeout changed, with its new timeout. -/
structure TimeoutChange where
  subject : String
  timeout : Nat
deriving DecidableEq

/-- The current settings and the timeouts handed out so far. -/
structure LiveSettings where
  current : Settings
  timeouts : Dictionary (Versioned Nat)
deriving DecidableEq

namespace LiveSettings

/-- Settings of which nothing was handed out. -/
def ofSettings (settings : Settings) : LiveSettings := ⟨settings, .empty⟩

/-- Hands out the timeout of a subject; the first time it is taken from the current settings. -/
def handOut (live : LiveSettings) (subject : String) : LiveSettings :=
  match live.timeouts.get? subject with
  | some _ => live
  | none =>
    { live with
      timeouts := live.timeouts.insert subject (.initial (live.current.timeoutOf subject)) }

/-- The timeout of a subject as its readers see it. -/
def timeout? (live : LiveSettings) (subject : String) : Option (Versioned Nat) :=
  live.timeouts.get? subject

/-- Writes the timeout of a subject directly. -/
def write (live : LiveSettings) (subject : String) (value : Nat) : LiveSettings :=
  match live.timeouts.get? subject with
  | some cell => { live with timeouts := live.timeouts.insert subject (cell.write value) }
  | none => live

/-- A timeout under new settings: written only if it changes. -/
def refreshed (settings : Settings) (subject : String) (cell : Versioned Nat) : Versioned Nat :=
  if cell.value = settings.timeoutOf subject then cell else cell.write (settings.timeoutOf subject)

/-- The timeouts that new settings change, in subject order. -/
def changes (live : LiveSettings) (settings : Settings) : List TimeoutChange :=
  (live.timeouts.entries.filter fun pair => pair.2.value ≠ settings.timeoutOf pair.1).map
    fun pair => ⟨pair.1, settings.timeoutOf pair.1⟩

/-- Makes new settings the current ones and brings every timeout handed out up to date. -/
def apply (live : LiveSettings) (settings : Settings) : LiveSettings where
  current := settings
  timeouts := live.timeouts.mapValues (refreshed settings)

/-- Applies settings that were read successfully; a failed reading changes nothing. -/
def reload {ε : Type} (live : LiveSettings) (loaded : Except ε Settings) : LiveSettings :=
  match loaded with
  | .ok settings => live.apply settings
  | .error _ => live

end LiveSettings

end PullConsumer
