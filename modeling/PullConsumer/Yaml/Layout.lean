import PullConsumer.Yaml.BlockScalar
import PullConsumer.Yaml.FlowScalar
import PullConsumer.Yaml.Names

/-! # The tokens of a text

Tokens are found from left to right. What begins a mapping shows only when the colon after its
first key is found, so the place of a possible key is kept until then; it must lie on the line of
the colon and not too far before it. `tokensOf` is every token up to the end of the text, or up to
where the text is malformed.
-/

namespace PullConsumer.Yaml

/-- The place of a token that may turn out to be a key. -/
structure KeyPlace where
  /-- How many tokens precede it. -/
  number : Nat
  /-- Nothing else may stand there. -/
  required : Bool
  index : Nat
  line : Nat
  column : Nat

/-- A key is too old when its line or 1024 characters have passed. -/
def KeyPlace.isStale (place : KeyPlace) (cursor : Cursor) : Bool :=
  place.line < cursor.line || place.index + 1024 < cursor.index

/-- The tokens found so far and what the next ones depend on. -/
structure Layout where
  cursor : Cursor
  /-- The tokens found, the newest first. -/
  tokens : List Token
  /-- The columns of the open blocks, the innermost first. -/
  indents : List Nat
  /-- The possible key of the innermost flow collection, or of the block. -/
  key : Option KeyPlace
  /-- The possible keys around it, one for each flow collection that is open. -/
  outerKeys : List (Option KeyPlace)
  /-- Whether a key may begin here. -/
  keyAllowed : Bool

namespace Layout

def start (text : List Char) : Layout := ⟨.start text, [], [], none, [], true⟩

/-- Whether a flow collection is open. -/
def inFlow (layout : Layout) : Bool := !layout.outerKeys.isEmpty

/-- The first column right of the innermost block. -/
def innerColumn (layout : Layout) : Nat :=
  match layout.indents with
  | [] => 0
  | column :: _ => column + 1

def push (token : Token) (layout : Layout) : Layout :=
  { layout with tokens := token :: layout.tokens }

def insert (number : Nat) (token : Token) (layout : Layout) : Layout :=
  { layout with tokens := layout.tokens.insertIdx (layout.tokens.length - number) token }

/-! ## Possible keys -/

/-- Gives up the innermost possible key, which may not be required. -/
def dropKey? (layout : Layout) : Option Layout :=
  if layout.key.any KeyPlace.required then none else some { layout with key := none }

/-- Gives up the possible keys that are too old. -/
def dropStale? (layout : Layout) : Option Layout :=
  let stale (place : KeyPlace) : Bool := place.isStale layout.cursor
  if (layout.key :: layout.outerKeys).any fun key => key.any fun place =>
      stale place && place.required then
    none
  else
    let fresh (key : Option KeyPlace) : Option KeyPlace := key.filter fun place => !stale place
    some { layout with key := fresh layout.key, outerKeys := layout.outerKeys.map fresh }

/-- Keeps this place as a possible key, if keys are allowed here. -/
def saveKey? (layout : Layout) : Option Layout :=
  if layout.keyAllowed then
    (dropKey? layout).map fun dropped =>
      { dropped with
        key := some {
          number := layout.tokens.length
          required := !layout.inFlow && layout.indents.head? == some layout.cursor.column
          index := layout.cursor.index
          line := layout.cursor.line
          column := layout.cursor.column } }
  else some layout

/-- The tokens that no possible key holds back. -/
def settled (layout : Layout) : List Token :=
  let numbers := (layout.key :: layout.outerKeys).filterMap fun key => key.map KeyPlace.number
  layout.tokens.reverse.take (numbers.foldl min layout.tokens.length)

/-! ## Indentation -/

/-- Opens a block whose start is some number of tokens back, unless one is open at its column. -/
def openBlock (column number : Nat) (token : Token) (layout : Layout) : Layout :=
  if !layout.inFlow && layout.innerColumn ≤ column then
    { layout.insert number token with indents := column :: layout.indents }
  else layout

/-- The blocks that stay open left of a column, and how many are closed. -/
def closedBlocks (kept : Nat → Bool) : List Nat → List Nat × Nat
  | [] => ([], 0)
  | column :: rest =>
    if kept column then (column :: rest, 0)
    else
      let (staying, count) := closedBlocks kept rest
      (staying, count + 1)

def closeBlocks (kept : Nat → Bool) (layout : Layout) : Layout :=
  if layout.inFlow then layout
  else
    let (staying, count) := closedBlocks kept layout.indents
    { layout with
      indents := staying
      tokens := List.replicate count .blockEnd ++ layout.tokens }

/-- Closes all blocks. -/
def closeAll (layout : Layout) : Layout := layout.closeBlocks fun _ => false

/-! ## Finding the next token -/

/-- The place after a byte order mark at the start of a line. -/
def skipOrderMark (cursor : Cursor) : Cursor :=
  if cursor.column = 0 ∧ cursor.rest.head? = some '\ufeff' then cursor.skip 1 else cursor

/-- The place after the blanks in front of a token. A tab may not stand where a key may begin. -/
def skipBlanks (tabs : Bool) (cursor : Cursor) : Cursor :=
  ((skipOrderMark cursor).skipWhile fun c => c == ' ' || (tabs && c == '\t')).skipComment

/-- Blanks do not lengthen what follows. -/
theorem length_skipBlanks_le (tabs : Bool) (cursor : Cursor) :
    (skipBlanks tabs cursor).rest.length ≤ cursor.rest.length := by
  unfold skipBlanks
  refine Nat.le_trans (Cursor.length_skipComment_le _) (Nat.le_trans
    (Cursor.length_skipWhile_le _ _) ?_)
  unfold skipOrderMark
  split
  · exact Cursor.length_skip_le 1 cursor
  · exact Nat.le_refl _

/-- The place of the next token, and whether a key may begin there: in a block, at the start of
each line. -/
def nextPlace (inFlow keyAllowed : Bool) (cursor : Cursor) : Cursor × Bool :=
  match _ : (skipBlanks (inFlow || !keyAllowed) cursor).takeBreak? with
  | some (_, next) => nextPlace inFlow (keyAllowed || !inFlow) next
  | none => (skipBlanks (inFlow || !keyAllowed) cursor, keyAllowed)
termination_by cursor.rest.length
decreasing_by
  exact Nat.lt_of_lt_of_le (Cursor.length_takeBreak?_lt (by assumption))
    (length_skipBlanks_le _ cursor)

/-- Adds a token of some characters. -/
def mark (token : Token) (length : Nat) (layout : Layout) : Layout :=
  { layout.push token with cursor := layout.cursor.skip length }

/-- Allows or forbids a key at the next token. -/
def allowKey (allowed : Bool) (layout : Layout) : Layout :=
  { layout with keyAllowed := allowed }

/-- Adds a token that was read up to some place. -/
def add (found : Token × Cursor) (layout : Layout) : Layout :=
  { layout.push found.1 with cursor := found.2 }

/-- Ends the text. -/
def finish? (layout : Layout) : Option Layout := do
  let cursor := layout.cursor
  let last := if cursor.column = 0 then cursor else { cursor with line := cursor.line + 1 }
  let closed ← ({ layout with cursor := last }).closeAll.dropKey?
  return (closed.allowKey false).push .streamEnd

/-- Adds the start or the end of a document. -/
def documentMark? (token : Token) (layout : Layout) : Option Layout := do
  return ((← layout.closeAll.dropKey?).allowKey false).mark token 3

def addDirective? (layout : Layout) : Option Layout := do
  let closed ← layout.closeAll.dropKey?
  return (closed.allowKey false).add (← directive? layout.cursor)

def openFlow? (token : Token) (layout : Layout) : Option Layout := do
  let saved ← layout.saveKey?
  let inner := { saved with key := none, outerKeys := saved.key :: saved.outerKeys }
  return (inner.allowKey true).mark token 1

def closeFlow? (token : Token) (layout : Layout) : Option Layout := do
  let dropped ← layout.dropKey?
  let outer :=
    match dropped.outerKeys with
    | [] => dropped
    | key :: rest => { dropped with key := key, outerKeys := rest }
  return (outer.allowKey false).mark token 1

/-- Adds the comma between the items of a flow collection. -/
def flowEntry? (layout : Layout) : Option Layout := do
  return ((← layout.dropKey?).allowKey true).mark .flowEntry 1

/-- Opens a block here, where a key must be allowed; a flow collection needs none. -/
def openBlockHere? (token : Token) (layout : Layout) : Option Layout :=
  if layout.inFlow then some layout
  else if layout.keyAllowed then
    some (layout.openBlock layout.cursor.column layout.tokens.length token)
  else none

/-- Adds the hyphen in front of an item of a block. -/
def blockEntry? (layout : Layout) : Option Layout := do
  let opened ← layout.openBlockHere? .blockSequenceStart
  return ((← opened.dropKey?).allowKey true).mark .blockEntry 1

/-- Adds the question mark in front of a key. -/
def explicitKey? (layout : Layout) : Option Layout := do
  let opened ← layout.openBlockHere? .blockMappingStart
  return ((← opened.dropKey?).allowKey !layout.inFlow).mark .key 1

/-- Adds the colon in front of a value; what stands at a possible key is then a key. -/
def value? (layout : Layout) : Option Layout :=
  match layout.key with
  | some place =>
    let keyed := { layout.insert place.number .key with key := none }
    let opened := keyed.openBlock place.column place.number .blockMappingStart
    some ((opened.allowKey false).mark .value 1)
  | none => do
    let opened ← layout.openBlockHere? .blockMappingStart
    return (opened.allowKey !layout.inFlow).mark .value 1

/-- Adds a token that a key may begin with. -/
def addKeyed? (read : Cursor → Option (Token × Cursor)) (layout : Layout) : Option Layout := do
  return ((← layout.saveKey?).allowKey false).add (← read layout.cursor)

/-- Reads a quoted scalar. -/
def readQuoted? (single : Bool) (cursor : Cursor) : Option (Token × Cursor) :=
  (quotedScalar? single cursor).map fun found =>
    (.scalar (String.ofList found.1) .quoted, found.2)

/-- Adds a block scalar; its lines leave a key allowed. -/
def addBlockScalar? (folded : Bool) (layout : Layout) : Option Layout := do
  let dropped ← layout.dropKey?
  let (text, next) ← blockScalar? folded layout.innerColumn layout.cursor
  let style : ScalarStyle := if folded then .folded else .literal
  return (dropped.allowKey true).add (.scalar (String.ofList text) style, next)

/-- Adds a plain scalar; a key is allowed after it only if it ends after a line break. -/
def addPlain? (layout : Layout) : Option Layout := do
  let saved ← layout.saveKey?
  let found ← plainScalar? layout.inFlow layout.innerColumn layout.cursor
  return (saved.allowKey found.brokeLine).add
    (.scalar (String.ofList found.text) .plain, found.next)

/-- The characters that do not begin a plain scalar, whatever follows. -/
def isIndicator (c : Char) : Bool :=
  isFlowMark c || c == '#' || c == '&' || c == '*' || c == '!' || c == '|' || c == '>' ||
    c == '\'' || c == '"' || c == '%' || c == '@' || c == '\u0060'

/-- Whether a plain scalar begins here. -/
def beginsPlain (inFlow : Bool) (c : Char) (rest : List Char) : Bool :=
  if c == '-' then !rest.head?.any isBlank
  else if c == '?' || c == ':' then !inFlow && !atGap rest
  else !isBlank c && !isBreak c && !isIndicator c

/-- Adds the token that begins with a character at the place of the layout. -/
def addToken? (layout : Layout) (c : Char) (rest : List Char) : Option Layout :=
  let flow := layout.inFlow
  if layout.cursor.column == 0 && c == '%' then layout.addDirective?
  else if layout.cursor.atDocumentMark then
    layout.documentMark? (if c == '-' then .documentStart else .documentEnd)
  else if c == '[' then layout.openFlow? .flowSequenceStart
  else if c == '\x7b' then layout.openFlow? .flowMappingStart
  else if c == ']' then layout.closeFlow? .flowSequenceEnd
  else if c == '\x7d' then layout.closeFlow? .flowMappingEnd
  else if c == ',' then layout.flowEntry?
  else if c == '-' && atGap rest then layout.blockEntry?
  else if c == '?' && (flow || atGap rest) then layout.explicitKey?
  else if c == ':' && (flow || atGap rest) then layout.value?
  else if c == '*' then
    layout.addKeyed? fun cursor => (anchorName? cursor).map fun found => (.alias found.1, found.2)
  else if c == '&' then
    layout.addKeyed? fun cursor => (anchorName? cursor).map fun found => (.anchor found.1, found.2)
  else if c == '!' then layout.addKeyed? (tag? flow)
  else if c == '|' && !flow then layout.addBlockScalar? false
  else if c == '>' && !flow then layout.addBlockScalar? true
  else if c == '\'' then layout.addKeyed? (readQuoted? true)
  else if c == '"' then layout.addKeyed? (readQuoted? false)
  else if beginsPlain flow c rest then layout.addPlain?
  else none

/-- Adds the next token, and the ends of the blocks before it. -/
def next? (layout : Layout) : Option Layout := do
  let (cursor, keyAllowed) := nextPlace layout.inFlow layout.keyAllowed layout.cursor
  let fresh ← ({ layout with cursor := cursor, keyAllowed := keyAllowed }).dropStale?
  let closed := fresh.closeBlocks fun column => column ≤ cursor.column
  match cursor.rest with
  | [] => closed.finish?
  | c :: rest => closed.addToken? c rest

/-- Adds tokens up to the end of the text. Every token but the last takes at least one character,
so one more than the length of the text is fuel enough. -/
def run : Nat → Layout → List Token
  | 0, layout => layout.settled
  | fuel + 1, layout =>
    match layout.next?.bind dropStale? with
    | none => layout.settled
    | some next =>
      if next.tokens.head? = some .streamEnd then next.tokens.reverse else run fuel next

end Layout

/-- The tokens of a text, as far as it is well formed. -/
def tokensOf (text : List Char) : List Token :=
  if text.all isPermitted then (Layout.start text).run (text.length + 1) else []

end PullConsumer.Yaml
