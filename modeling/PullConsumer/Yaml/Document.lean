import PullConsumer.Dictionary
import PullConsumer.Table
import PullConsumer.Yaml.Event
import PullConsumer.Yaml.Layout

/-! # Documents

The first document of a text as a tree. A text that is malformed later on still has the tree of
what precedes: a `cut` stands where the readable part ends.
-/

namespace PullConsumer.Yaml

/-- A node of a document. -/
inductive Node
  | scalar (tag : Option String) (text : String) (style : ScalarStyle)
  | sequence (items : List Node)
  | mapping (members : List (Node × Node))
  /-- The node that an anchor of this number names. -/
  | alias (anchor : Nat)
  | cut

instance : Inhabited Node := ⟨.cut⟩

mutual

def Node.isWhole : Node → Bool
  | .scalar _ _ _ => true
  | .sequence items => areWhole items
  | .mapping members => arePairsWhole members
  | .alias _ => true
  | .cut => false

/-- Whether all of several nodes are readable. -/
def areWhole : List Node → Bool
  | [] => true
  | item :: rest => item.isWhole && areWhole rest

/-- Whether all keys and values are readable. -/
def arePairsWhole : List (Node × Node) → Bool
  | [] => true
  | (key, value) :: rest => key.isWhole && value.isWhole && arePairsWhole rest

end

/-- The part of a collection that was read, the newest first. -/
inductive OpenCollection
  | sequence (items : List Node)
  | mapping (members : List (Node × Node)) (key : Option Node)

namespace OpenCollection

/-- Adds a node: an item, a key, or the value of the key before it. -/
def add (node : Node) : OpenCollection → OpenCollection
  | .sequence items => .sequence (node :: items)
  | .mapping members none => .mapping members (some node)
  | .mapping members (some key) => .mapping ((key, node) :: members) none

/-- The collection as it ends here. -/
def close : OpenCollection → Node
  | .sequence items => .sequence items.reverse
  | .mapping members _ => .mapping members.reverse

def cutOff : OpenCollection → Node
  | .sequence items => .sequence (.cut :: items).reverse
  | .mapping members none => .mapping ((.cut, .cut) :: members).reverse
  | .mapping members (some key) => .mapping ((key, .cut) :: members).reverse

end OpenCollection

/-- The nodes that anchors name. The number of an anchor is the count of different names before
it; of two anchors with one number the later one counts. -/
structure Anchors where
  numbers : Dictionary Nat
  /-- The anchored node that a number stands for, by the order in which those nodes begin. -/
  targets : Table Nat
  /-- The anchored nodes, by the same order. -/
  nodes : Table Node
  /-- How many anchored nodes have begun. -/
  begun : Nat

namespace Anchors

def none : Anchors := ⟨.empty, [], [], 0⟩

def begin (name : Option String) (anchors : Anchors) : Option Nat × Anchors :=
  match name with
  | .none => (.none, anchors)
  | some name =>
    let number := anchors.numbers.size
    (some anchors.begun,
      { anchors with
        numbers := anchors.numbers.insert name number
        targets := anchors.targets.set number anchors.begun
        begun := anchors.begun + 1 })

def finish (place : Option Nat) (node : Node) (anchors : Anchors) : Anchors :=
  match place with
  | .none => anchors
  | some place => { anchors with nodes := anchors.nodes.set place node }

def node (number : Nat) (anchors : Anchors) : Node :=
  ((anchors.targets.get? number).bind fun place => anchors.nodes.get? place).getD .cut

end Anchors

/-- A document of which some events were read. -/
structure Assembly where
  /-- The open collections, the innermost first, each with its place among the anchored nodes. -/
  collections : List (Option Nat × OpenCollection)
  root : Option Node
  anchors : Anchors

namespace Assembly

/-- Adds a node to the innermost open collection; outside all of them it is the root. -/
def add (node : Node) (assembly : Assembly) : Assembly :=
  match assembly.collections with
  | [] => { assembly with root := some node }
  | (place, collection) :: rest =>
    { assembly with collections := (place, collection.add node) :: rest }

def openCollection (anchor : Option String) (collection : OpenCollection) (assembly : Assembly) :
    Assembly :=
  let (place, anchors) := assembly.anchors.begin anchor
  { assembly with collections := (place, collection) :: assembly.collections, anchors := anchors }

def endCollection (ended : OpenCollection → Node) (assembly : Assembly) : Assembly :=
  match assembly.collections with
  | [] => assembly
  | (place, collection) :: rest =>
    let node := ended collection
    ({ assembly with
      collections := rest, anchors := assembly.anchors.finish place node } : Assembly).add node

/-- Takes an event; `none` if it names an anchor that no node before it has. -/
def take? (assembly : Assembly) : Event → Option Assembly
  | .alias name =>
    (assembly.anchors.numbers.get? name).map fun number => assembly.add (.alias number)
  | .scalar anchor tag text style =>
    let (place, anchors) := assembly.anchors.begin anchor
    let node := Node.scalar tag text style
    some (({ assembly with anchors := anchors.finish place node } : Assembly).add node)
  | .sequenceStart anchor => some (assembly.openCollection anchor (.sequence []))
  | .mappingStart anchor => some (assembly.openCollection anchor (.mapping [] none))
  | .sequenceEnd | .mappingEnd => some (assembly.endCollection OpenCollection.close)
  | .documentStart | .documentEnd | .streamEnd => some assembly

/-- Takes events as long as their anchors are known, and says whether all were taken. -/
def takeAll (assembly : Assembly) : List Event → Assembly × Bool
  | [] => (assembly, true)
  | event :: rest =>
    match assembly.take? event with
    | none => (assembly, false)
    | some next => next.takeAll rest

/-- Cuts off all open collections. -/
def cutOff (assembly : Assembly) : Assembly :=
  assembly.collections.foldl (fun assembly _ => assembly.endCollection OpenCollection.cutOff)
    assembly

end Assembly

/-- What follows the readable part of a document. -/
inductive Ending
  | textEnd
  | furtherDocument
  | malformed
deriving DecidableEq

/-- The first document of a text. -/
structure Document where
  /-- The tree, unless the text is empty. -/
  root : Option Node
  anchors : Anchors
  ending : Ending

namespace Document

/-- What follows the content of the first document. -/
def endingOf : List Event → Ending
  | .documentEnd :: .streamEnd :: _ => .textEnd
  | .documentEnd :: _ => .furtherDocument
  | _ => .malformed

/-- The first document among events. -/
def ofEvents (events : List Event) : Document :=
  match events with
  | .streamEnd :: _ => ⟨none, .none, .textEnd⟩
  | _ =>
    let (content, rest) := events.span fun event => event ≠ .documentEnd
    let (assembly, complete) := (⟨[], none, .none⟩ : Assembly).takeAll content
    let whole := assembly.cutOff
    ⟨some (whole.root.getD .cut), whole.anchors, if complete then endingOf rest else .malformed⟩

def ofText (text : List Char) : Document := ofEvents (eventsOf (tokensOf text))

/-- The node that is meant by a node: what an alias names, or else the node itself. -/
def follow (document : Document) : Node → Node
  | .alias number => document.anchors.node number
  | node => node

end Document

end PullConsumer.Yaml
