import PullConsumer.Text.Radix
import PullConsumer.Yaml.Cursor

/-! # Scalars within lines

A plain or quoted scalar is a run of words with gaps between them. A gap that goes over lines is
folded. `none` says that the text is malformed. Every round takes at least one character, so the
length of what follows is fuel enough.
-/

namespace PullConsumer.Yaml

/-- The characters that separate and enclose the items of a flow collection. -/
def isFlowMark (c : Char) : Bool :=
  c == ',' || c == '[' || c == ']' || c == '\x7b' || c == '\x7d'

/-- The characters that may not follow a colon within a word of a flow collection. -/
def isAfterColon (c : Char) : Bool := isFlowMark c || c == '?'

/-- Puts a gap in front of a word; before no word a gap stands for nothing. -/
def Gap.join (gap : Gap) (word : List Char) : List Char :=
  if word.isEmpty then [] else gap.text ++ word

/-! ## Plain scalars -/

/-- The word of a plain scalar that begins here. -/
def plainWord? (inFlow : Bool) : List Char → Option (List Char)
  | [] => some []
  | c :: rest =>
    if isBlank c || isBreak c then some []
    else if inFlow && c == ':' && rest.head?.any isAfterColon then none
    else if c == ':' && atGap rest then some []
    else if inFlow && isFlowMark c then some []
    else (plainWord? inFlow rest).map (c :: ·)

/-- What a plain scalar reads as, where it ends, and whether it ends after a line break. -/
structure PlainScalar where
  text : List Char
  next : Cursor
  brokeLine : Bool

def plainFrom? (inFlow : Bool) (limit : Nat) : Nat → Gap → Cursor → Option PlainScalar
  | 0, gap, cursor => some ⟨[], cursor, gap.isBreaks⟩
  | fuel + 1, gap, cursor =>
    if cursor.atDocumentMark || cursor.rest.head? = some '#' then
      some ⟨[], cursor, gap.isBreaks⟩
    else do
      let word ← plainWord? inFlow cursor.rest
      let after := cursor.skip word.length
      let ended := after.rest.isEmpty || !atGap after.rest
      if ended then return ⟨gap.join word, after, word.isEmpty && gap.isBreaks⟩
      let (nextGap, next) ← after.takeGap? limit
      if !inFlow && next.column < limit then
        return ⟨gap.join word, next, nextGap.isBreaks⟩
      let more ← plainFrom? inFlow limit fuel nextGap next
      return { more with text := gap.join word ++ more.text }

/-- Reads a plain scalar; in a block its lines keep right of the indentation. -/
def plainScalar? (inFlow : Bool) (limit : Nat) (cursor : Cursor) : Option PlainScalar :=
  plainFrom? inFlow limit cursor.rest.length .empty cursor

/-! ## Quoted scalars -/

/-- What the character after a backslash means. -/
inductive Escape
  | char (value : Char)
  /-- The code of a character follows in so many digits. -/
  | code (digits : Nat)

/-- The escapes of a double-quoted scalar. -/
def escape? : Char → Option Escape
  | '0' => some (.char '\x00')
  | 'a' => some (.char '\x07')
  | 'b' => some (.char '\x08')
  | 't' => some (.char '\t')
  | '\t' => some (.char '\t')
  | 'n' => some (.char '\n')
  | 'v' => some (.char '\x0b')
  | 'f' => some (.char '\x0c')
  | 'r' => some (.char '\r')
  | 'e' => some (.char '\x1b')
  | ' ' => some (.char ' ')
  | '"' => some (.char '"')
  | '/' => some (.char '/')
  | '\\' => some (.char '\\')
  | 'N' => some (.char '\u0085')
  | '_' => some (.char '\u00a0')
  | 'L' => some (.char '\u2028')
  | 'P' => some (.char '\u2029')
  | 'x' => some (.code 2)
  | 'u' => some (.code 4)
  | 'U' => some (.code 8)
  | _ => none

def codeChar? (code : Nat) : Option Char :=
  if code.isValidChar then some (Char.ofNat code) else none

/-- What comes next in a quoted scalar: the end of a word, a character that is so many characters
long, or an escaped line break. -/
inductive QuotedPiece
  | wordEnd
  | char (value : Char) (length : Nat)
  | joinedLine

/-- The next piece of a single-quoted scalar. A quote in it is written twice. -/
def singlePiece : List Char → QuotedPiece
  | [] => .wordEnd
  | '\'' :: '\'' :: _ => .char '\'' 2
  | c :: _ => if c == '\'' || isBlank c || isBreak c then .wordEnd else .char c 1

def doublePiece? : List Char → Option QuotedPiece
  | [] => some .wordEnd
  | '\\' :: rest =>
    match rest with
    | [] => none
    | c :: rest =>
      if isBreak c then some .joinedLine
      else match escape? c with
        | none => none
        | some (.char value) => some (.char value 2)
        | some (.code digits) =>
          let written := rest.take digits
          if written.length < digits then none
          else ((Text.Radix.digits? 16 written).bind codeChar?).map fun value =>
            .char value (digits + 2)
  | c :: _ => if c == '"' || isBlank c || isBreak c then some .wordEnd else some (.char c 1)

/-- The word of a quoted scalar that begins here, the place after it, and whether an escaped line
break ends it. -/
def quotedWord? (single : Bool) : Nat → Cursor → Option (List Char × Cursor × Bool)
  | 0, cursor => some ([], cursor, false)
  | fuel + 1, cursor => do
    let piece ← if single then some (singlePiece cursor.rest) else doublePiece? cursor.rest
    match piece with
    | .wordEnd => return ([], cursor, false)
    | .joinedLine => return ([], cursor.skip 1, true)
    | .char value length =>
      let (word, next, joined) ← quotedWord? single fuel (cursor.skip length)
      return (value :: word, next, joined)

def quoteChar (single : Bool) : Char := if single then '\'' else '"'

/-- Reads a quoted scalar from after its first quote, or from after a gap in it. -/
def quotedFrom? (single : Bool) : Nat → Cursor → Option (List Char × Cursor)
  | 0, _ => none
  | fuel + 1, cursor =>
    if cursor.atDocumentMark || cursor.rest.isEmpty then none
    else do
      let (word, after, joined) ← quotedWord? single cursor.rest.length cursor
      let start ← if joined then after.takeBreak?.map Prod.snd else some after
      if start.rest.head? = some (quoteChar single) then return (word, start.skip 1)
      let (gap, next) ←
        if joined then start.takeBreaks? 0
        else (start.takeGap? 0).map fun found => (found.1.text, found.2)
      let (more, last) ← quotedFrom? single fuel next
      return (word ++ gap ++ more, last)

def quotedScalar? (single : Bool) (cursor : Cursor) : Option (List Char × Cursor) :=
  quotedFrom? single (cursor.rest.length + 1) (cursor.skip 1)

end PullConsumer.Yaml
