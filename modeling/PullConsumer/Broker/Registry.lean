import PullConsumer.Broker.Group
import PullConsumer.Dictionary
import PullConsumer.Table

/-! # The registry of broker groups

All pull entries that target a group share one health object. The registry names the objects in
use; an object that lost its name lives on for those who still hold it.
-/

namespace PullConsumer

/-- A hold on one health object, with the name under which it was made. -/
structure GroupRef where
  name : String
  object : Nat
deriving DecidableEq

/-- Health objects and the names of those in use. -/
structure GroupRegistry where
  objects : Table GroupHealth
  nextObject : Nat
  names : Dictionary Nat
deriving DecidableEq

namespace GroupRegistry

def empty : GroupRegistry := ⟨[], 0, .empty⟩

instance : Inhabited GroupRegistry := ⟨empty⟩

/-- Makes a health object that the registry does not name. -/
def create (registry : GroupRegistry) (name : String) : GroupRegistry × GroupRef :=
  ({ registry with
      objects := registry.objects.set registry.nextObject (.fresh name)
      nextObject := registry.nextObject + 1 },
    ⟨name, registry.nextObject⟩)

/-- The object in use under a name. -/
def find? (registry : GroupRegistry) (name : String) : Option GroupRef :=
  (registry.names.get? name).map fun object => ⟨name, object⟩

/-- The object in use under a name, made on first use. -/
def lookUp (registry : GroupRegistry) (name : String) : GroupRegistry × GroupRef :=
  match registry.find? name with
  | some ref => (registry, ref)
  | none =>
    let (created, ref) := registry.create name
    ({ created with names := created.names.insert name ref.object }, ref)

/-- The health that a hold reads. -/
def health (registry : GroupRegistry) (ref : GroupRef) : GroupHealth :=
  (registry.objects.get? ref.object).getD (.fresh ref.name)

def isAvailable (registry : GroupRegistry) (ref : GroupRef) : Bool :=
  (registry.health ref).available

/-- Changes the held object. -/
def change (registry : GroupRegistry) (ref : GroupRef) (update : GroupHealth → GroupHealth) :
    GroupRegistry :=
  { registry with objects := registry.objects.set ref.object (update (registry.health ref)) }

/-- Sets the availability of the held object. -/
def setAvailable (registry : GroupRegistry) (ref : GroupRef) (available : Bool) : GroupRegistry :=
  registry.change ref fun group => group.setAvailable available

/-- Counts a failure of the held object. -/
def markFailed (registry : GroupRegistry) (ref : GroupRef) : GroupRegistry :=
  registry.change ref GroupHealth.markFailed

/-- Makes the group of a name available, as metadata does once the group is announced again. -/
def markAvailable (registry : GroupRegistry) (name : String) : GroupRegistry :=
  let (found, ref) := registry.lookUp name
  found.setAvailable ref true

/-- Takes a name out of use. -/
def remove (registry : GroupRegistry) (name : String) : GroupRegistry :=
  { registry with names := registry.names.erase name }

/-- The number of names in use. -/
def size (registry : GroupRegistry) : Nat :=
  registry.names.size

/-- A changed object reads as changed, and every other object as before. -/
theorem get?_change (registry : GroupRegistry) (ref : GroupRef)
    (update : GroupHealth → GroupHealth) (object : Nat) :
    (registry.change ref update).objects.get? object =
      if ref.object = object then some (update (registry.health ref))
      else registry.objects.get? object :=
  Table.get?_set registry.objects ref.object object _

end GroupRegistry

end PullConsumer
