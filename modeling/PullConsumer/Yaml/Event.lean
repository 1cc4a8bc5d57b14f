import PullConsumer.Yaml.Token

/-! # Events

A text as the nodes that begin and end in it. The tokens decide one event after another; what is
expected next, and what is expected once that is done, is a stack. `eventsOf` is every event up to
the end of the text, or up to where the tokens make no sense.
-/

namespace PullConsumer.Yaml

/-- One event of a text. -/
inductive Event
  | documentStart
  | documentEnd
  | streamEnd
  | alias (name : String)
  | scalar (anchor tag : Option String) (text : String) (style : ScalarStyle)
  | sequenceStart (anchor : Option String)
  | sequenceEnd
  | mappingStart (anchor : Option String)
  | mappingEnd
deriving DecidableEq

/-- The scalar of a place that is left empty. -/
def Event.empty : Event := .scalar none none "" .plain

/-- What is expected next. -/
inductive Expectation
  /-- A document; the first one needs no mark in front of it. -/
  | document (first : Bool)
  | content
  | node
  | documentEnd
  | blockEntry
  | indentlessEntry
  | blockKey
  | blockValue
  | flowEntry (first : Bool)
  | pairKey
  | pairValue
  | pairEnd
  | flowKey (first : Bool)
  | flowValue
  /-- The value of a key without a colon. -/
  | noValue
  | nothing
deriving DecidableEq

/-- The tokens that are left and what is expected of them. -/
structure Outline where
  expected : Expectation
  /-- What is expected after that, the next one first. -/
  outer : List Expectation
  tokens : List Token
  /-- What the handles of tags stand for. -/
  handles : List (String × String)

/-- The next event and what remains; `none` if the tokens make no sense. -/
abbrev Next := Option (Event × Outline)

namespace Outline

/-- Leaves the innermost node. -/
def leave (outline : Outline) : Outline :=
  { outline with expected := outline.outer.headD .nothing, outer := outline.outer.tail }

/-- Goes on with further tokens. -/
def after (tokens : List Token) (outline : Outline) : Outline := { outline with tokens := tokens }

/-- Expects something else. -/
def expecting (expected : Expectation) (outline : Outline) : Outline :=
  { outline with expected := expected }

/-! ## Nodes -/

/-- What stands in front of a node. -/
structure Properties where
  anchor : Option String
  tag : Option (String × String)

/-- Reads an anchor and a tag, in either order. -/
def properties : List Token → Properties × List Token
  | .anchor name :: .tag handle rest :: more => (⟨some name, some (handle, rest)⟩, more)
  | .anchor name :: more => (⟨some name, none⟩, more)
  | .tag handle rest :: .anchor name :: more => (⟨some name, some (handle, rest)⟩, more)
  | .tag handle rest :: more => (⟨none, some (handle, rest)⟩, more)
  | more => (⟨none, none⟩, more)

/-- A tag with its handle replaced by what it stands for. -/
def fullTag? (handles : List (String × String)) (tag : String × String) : Option String :=
  if tag.1 = "" then some tag.2
  else (handles.find? fun pair => pair.1 = tag.1).map fun pair => pair.2 ++ tag.2

/-- Whether the node may be a block, and whether a sequence in it may go without indentation. -/
inductive NodeKind
  | block
  | blockValue
  | flow
deriving DecidableEq

/-- Reads the start of a node. -/
def node? (kind : NodeKind) (outline : Outline) : Next :=
  match outline.tokens with
  | .alias name :: rest => some (.alias name, outline.leave.after rest)
  | tokens => do
    let (given, tokens) := properties tokens
    let tag ←
      match given.tag with
      | none => some none
      | some tag => (fullTag? outline.handles tag).map some
    match tokens with
    | [] => none
    | .scalar text style :: rest =>
      return (.scalar given.anchor (tag.filter (· ≠ "!")) text style, outline.leave.after rest)
    | .flowSequenceStart :: rest =>
      return (.sequenceStart given.anchor, (outline.expecting (.flowEntry true)).after rest)
    | .flowMappingStart :: rest =>
      return (.mappingStart given.anchor, (outline.expecting (.flowKey true)).after rest)
    | token :: rest =>
      if kind = .blockValue ∧ token = .blockEntry then
        return (.sequenceStart given.anchor,
          (outline.expecting .indentlessEntry).after (token :: rest))
      else if kind ≠ .flow ∧ token = .blockSequenceStart then
        return (.sequenceStart given.anchor, (outline.expecting .blockEntry).after rest)
      else if kind ≠ .flow ∧ token = .blockMappingStart then
        return (.mappingStart given.anchor, (outline.expecting .blockKey).after rest)
      else if given.anchor.isSome ∨ tag.isSome then
        return (.scalar given.anchor tag "" .plain, outline.leave.after (token :: rest))
      else none

/-- Reads the start of a node, or the empty scalar if a token stands here that ends the place. -/
def nodeOrEmpty? (kind : NodeKind) (ends : Token → Bool) (next : Expectation)
    (outline : Outline) : Next :=
  match outline.tokens with
  | [] => none
  | token :: _ =>
    if ends token then some (.empty, outline.expecting next)
    else node? kind { outline with outer := next :: outline.outer }

/-! ## Documents -/

/-- The handles that every document has. -/
def standardHandles : List (String × String) :=
  [("!", "!"), ("!!", "tag:yaml.org,2002:")]

/-- Reads the directives in front of a document: one version and one meaning for each handle. -/
def directives? (version : Bool) (handles : List (String × String)) :
    List Token → Option (List (String × String) × List Token)
  | .versionDirective major minor :: rest =>
    if version ∨ major ≠ 1 ∨ (minor ≠ 1 ∧ minor ≠ 2) then none
    else directives? true handles rest
  | .tagDirective handle meaning :: rest =>
    if handles.any fun pair => pair.1 = handle then none
    else directives? version (handles ++ [(handle, meaning)]) rest
  | rest => some (handles, rest)

def endsContent : Token → Bool
  | .versionDirective _ _ | .tagDirective _ _ | .documentStart | .documentEnd | .streamEnd => true
  | _ => false

def markedDocument? (outline : Outline) : Next := do
  let (handles, rest) ← directives? false [] outline.tokens
  match rest with
  | .documentStart :: rest =>
    return (.documentStart,
      { expected := .content, outer := .documentEnd :: outline.outer, tokens := rest,
        handles := handles ++ standardHandles })
  | _ => none

/-- Reads the start of a document, or the end of the text. -/
def document? (first : Bool) (outline : Outline) : Next :=
  let outline :=
    if first then outline else outline.after (outline.tokens.dropWhile (· = .documentEnd))
  match outline.tokens with
  | [] => none
  | .streamEnd :: rest => some (.streamEnd, (outline.expecting .nothing).after rest)
  | token :: _ =>
    if first ∧ (token = .documentEnd ∨ !endsContent token) then
      some (.documentStart,
        { outline with
          expected := .node, outer := .documentEnd :: outline.outer, handles := standardHandles })
    else outline.markedDocument?

/-- Reads the content of a document with a mark, which may be empty. -/
def content? (outline : Outline) : Next :=
  match outline.tokens with
  | [] => none
  | token :: _ => if endsContent token then some (.empty, outline.leave) else node? .block outline

def documentEnd? (outline : Outline) : Next :=
  match outline.tokens with
  | [] => none
  | .documentEnd :: rest => some (.documentEnd, (outline.expecting (.document false)).after rest)
  | _ :: _ => some (.documentEnd, outline.expecting (.document false))

/-! ## Collections in blocks -/

/-- Reads an item of a sequence in a block, or its end. -/
def blockEntry? (outline : Outline) : Next :=
  match outline.tokens with
  | .blockEntry :: rest =>
    nodeOrEmpty? .block (fun token => token = .blockEntry ∨ token = .blockEnd) .blockEntry
      (outline.after rest)
  | .blockEnd :: rest => some (.sequenceEnd, outline.leave.after rest)
  | _ => none

/-- The tokens that leave a place of a mapping in a block empty. -/
def endsBlockPlace (token : Token) : Bool :=
  token = .key ∨ token = .value ∨ token = .blockEnd

/-- Reads an item of a sequence without indentation; anything else ends it. -/
def indentlessEntry? (outline : Outline) : Next :=
  match outline.tokens with
  | [] => none
  | .blockEntry :: rest =>
    nodeOrEmpty? .block (fun token => token = .blockEntry ∨ endsBlockPlace token) .indentlessEntry
      (outline.after rest)
  | _ :: _ => some (.sequenceEnd, outline.leave)

def blockKey? (outline : Outline) : Next :=
  match outline.tokens with
  | .key :: rest => nodeOrEmpty? .blockValue endsBlockPlace .blockValue (outline.after rest)
  | .blockEnd :: rest => some (.mappingEnd, outline.leave.after rest)
  | _ => none

def blockValue? (outline : Outline) : Next :=
  match outline.tokens with
  | [] => none
  | .value :: rest => nodeOrEmpty? .blockValue endsBlockPlace .blockKey (outline.after rest)
  | _ :: _ => some (.empty, outline.expecting .blockKey)

/-! ## Flow collections -/

/-- The tokens of a flow collection after the comma that its items but the first need. -/
def afterComma? (first : Bool) (tokens : List Token) : Option (List Token) :=
  if first then some tokens
  else
    match tokens with
    | .flowEntry :: rest => some rest
    | _ => none

/-- Reads an item of a flow sequence, or its end. An item may be a single pair. -/
def flowEntry? (first : Bool) (outline : Outline) : Next :=
  match outline.tokens with
  | .flowSequenceEnd :: rest => some (.sequenceEnd, outline.leave.after rest)
  | tokens => do
    let tokens ← afterComma? first tokens
    match tokens with
    | .key :: rest => return (.mappingStart none, (outline.expecting .pairKey).after rest)
    | .flowSequenceEnd :: rest => return (.sequenceEnd, outline.leave.after rest)
    | _ =>
      let item := { outline with tokens := tokens, outer := .flowEntry false :: outline.outer }
      node? .flow item

/-- The tokens that leave a place of a pair in a flow sequence empty. -/
def endsPairPlace (token : Token) : Bool :=
  token = .flowEntry ∨ token = .flowSequenceEnd

/-- Reads the key of a single pair; the token that leaves it empty is passed over. -/
def pairKey? (outline : Outline) : Next :=
  match outline.tokens with
  | [] => none
  | token :: rest =>
    if token = .value ∨ endsPairPlace token then
      some (.empty, (outline.expecting .pairValue).after rest)
    else node? .flow { outline with outer := .pairValue :: outline.outer }

def pairValue? (outline : Outline) : Next :=
  match outline.tokens with
  | [] => none
  | .value :: rest => nodeOrEmpty? .flow endsPairPlace .pairEnd (outline.after rest)
  | _ :: _ => some (.empty, outline.expecting .pairEnd)

/-- Ends a single pair. -/
def pairEnd? (outline : Outline) : Next :=
  match outline.tokens with
  | [] => none
  | _ :: _ => some (.mappingEnd, outline.expecting (.flowEntry false))

/-- The tokens that leave a place of a flow mapping empty. -/
def endsFlowPlace (token : Token) : Bool :=
  token = .flowEntry ∨ token = .flowMappingEnd

def flowKey? (first : Bool) (outline : Outline) : Next :=
  match outline.tokens with
  | .flowMappingEnd :: rest => some (.mappingEnd, outline.leave.after rest)
  | tokens => do
    let tokens ← afterComma? first tokens
    match tokens with
    | .key :: rest =>
      nodeOrEmpty? .flow (fun token => token = .value ∨ endsFlowPlace token) .flowValue
        (outline.after rest)
    | .flowMappingEnd :: rest => return (.mappingEnd, outline.leave.after rest)
    | _ =>
      let key := { outline with tokens := tokens, outer := .noValue :: outline.outer }
      node? .flow key

def flowValue? (outline : Outline) : Next :=
  match outline.tokens with
  | [] => none
  | .value :: rest => nodeOrEmpty? .flow endsFlowPlace (.flowKey false) (outline.after rest)
  | _ :: _ => some (.empty, outline.expecting (.flowKey false))

/-- Reads the missing value of a key without a colon. -/
def noValue? (outline : Outline) : Next :=
  match outline.tokens with
  | [] => none
  | _ :: _ => some (.empty, outline.expecting (.flowKey false))

/-! ## All events -/

def next? (outline : Outline) : Next :=
  match outline.expected with
  | .document first => outline.document? first
  | .content => outline.content?
  | .node => node? .block outline
  | .documentEnd => outline.documentEnd?
  | .blockEntry => outline.blockEntry?
  | .indentlessEntry => outline.indentlessEntry?
  | .blockKey => outline.blockKey?
  | .blockValue => outline.blockValue?
  | .flowEntry first => outline.flowEntry? first
  | .pairKey => outline.pairKey?
  | .pairValue => outline.pairValue?
  | .pairEnd => outline.pairEnd?
  | .flowKey first => outline.flowKey? first
  | .flowValue => outline.flowValue?
  | .noValue => outline.noValue?
  | .nothing => none

/-- Reads events as long as there are any. -/
def run : Nat → Outline → List Event
  | 0, _ => []
  | fuel + 1, outline =>
    match outline.next? with
    | none => []
    | some (event, next) => event :: run fuel next

end Outline

/-- The events of tokens. At most three events in a row take no token, so four for each token are
fuel enough. -/
def eventsOf (tokens : List Token) : List Event :=
  Outline.run (4 * tokens.length) ⟨.document true, [], tokens, []⟩

end PullConsumer.Yaml
