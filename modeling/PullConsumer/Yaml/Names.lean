import PullConsumer.Text.Radix
import PullConsumer.Yaml.Cursor
import PullConsumer.Yaml.Token

/-! # Anchors, tags and directives

The names that a node may carry, and the lines that speak to the reader of a document. `none` says
that the text is malformed.
-/

namespace PullConsumer.Yaml

/-- A character of a name: an ASCII letter or digit, a low line or a hyphen. -/
def isNameChar (c : Char) : Bool := c.isAlphanum || c == '_' || c == '-'

/-- Whether a name may end in front of this. -/
def endsName (rest : List Char) : Bool :=
  atGap rest ||
    rest.head?.any fun c =>
      c == '?' || c == ':' || c == ',' || c == ']' || c == '\x7d' || c == '%' || c == '@' ||
        c == '\u0060'

/-- Reads the name of an anchor or of a reference to one, from its mark. -/
def anchorName? (cursor : Cursor) : Option (String × Cursor) :=
  let (name, next) := (cursor.skip 1).takeWhile isNameChar
  if name.isEmpty || !endsName next.rest then none else some (String.ofList name, next)

/-! ## Tags -/

/-- A character of a tag that stands for itself; within angle brackets there are three more. -/
def isTagChar (bracketed : Bool) (c : Char) : Bool :=
  isNameChar c || c == ';' || c == '/' || c == '?' || c == ':' || c == '@' || c == '&' ||
    c == '=' || c == '+' || c == '$' || c == '.' || c == '!' || c == '~' || c == '*' ||
    c == '\'' || c == '(' || c == ')' || (bracketed && (c == ',' || c == '[' || c == ']'))

/-- One byte, written as a percent sign and two digits. -/
def percentByte? : List Char → Option (Nat × List Char)
  | '%' :: high :: low :: rest =>
    (Text.Radix.digits? 16 [high, low]).map fun byte => (byte, rest)
  | _ => none

/-- How many bytes a character has, by its first one. -/
def byteCount? (first : Nat) : Option Nat :=
  if first < 0x80 then some 1
  else if first / 0x20 = 0x6 then some 2
  else if first / 0x10 = 0xE then some 3
  else if first / 0x8 = 0x1E then some 4
  else none

def furtherBytes? : Nat → Nat → List Char → Option Nat
  | 0, code, _ => some code
  | count + 1, code, text =>
    (percentByte? text).bind fun found =>
      if found.1 / 0x40 = 0x2 then furtherBytes? count (code * 0x40 + found.1 % 0x40) found.2
      else none

/-- A character that is written as its bytes, and how many of them. -/
def percentChar? (text : List Char) : Option (Char × Nat) := do
  let (first, rest) ← percentByte? text
  let count ← byteCount? first
  let lead := if count = 1 then first else first % Nat.pow 2 (7 - count)
  let code ← furtherBytes? (count - 1) lead rest
  return (Char.ofNat code, count)

/-- Reads the characters of a tag as far as they go; each takes at least one character. -/
def tagChars? (bracketed : Bool) : Nat → Cursor → Option (List Char × Cursor)
  | 0, cursor => some ([], cursor)
  | fuel + 1, cursor =>
    match cursor.rest with
    | [] => some ([], cursor)
    | c :: _ =>
      if isTagChar bracketed c then
        (tagChars? bracketed fuel (cursor.skip 1)).map fun found => (c :: found.1, found.2)
      else if c == '%' then do
        let (char, bytes) ← percentChar? cursor.rest
        let (more, next) ← tagChars? bracketed fuel (cursor.skip (3 * bytes))
        return (char :: more, next)
      else some ([], cursor)

/-- Reads the text of a tag after the part of it that was read before. -/
def tagText? (bracketed : Bool) (before : List Char) (cursor : Cursor) :
    Option (List Char × Cursor) := do
  let (text, next) ← tagChars? bracketed cursor.rest.length cursor
  if before.isEmpty && text.isEmpty then none else return (before.drop 1 ++ text, next)

/-- Reads the handle of a tag: a mark, a name, and perhaps a closing mark. -/
def takeHandle? (cursor : Cursor) : Option (List Char × Cursor) :=
  if cursor.rest.head? = some '!' then
    let (name, next) := (cursor.skip 1).takeWhile isNameChar
    if next.rest.head? = some '!' then some ('!' :: name ++ ['!'], next.skip 1)
    else some ('!' :: name, next)
  else none

/-- Whether a handle is more than the mark that begins every tag. -/
def isWholeHandle (handle : List Char) : Bool :=
  2 ≤ handle.length && handle.getLast? == some '!'

/-- Reads a tag in angle brackets, from its mark. -/
def bracketedTag? (cursor : Cursor) : Option (Token × Cursor) := do
  let (text, next) ← tagText? true [] (cursor.skip 2)
  if next.rest.head? = some '>' then return (.tag "" (String.ofList text), next.skip 1) else none

/-- Reads a tag with a handle, from its mark. The mark alone is a tag of its own. -/
def handledTag? (cursor : Cursor) : Option (Token × Cursor) := do
  let (handle, after) ← takeHandle? cursor
  if isWholeHandle handle then
    let (text, next) ← tagText? false [] after
    return (.tag (String.ofList handle) (String.ofList text), next)
  else
    let (text, next) ← tagText? false handle after
    if text.isEmpty then return (.tag "" "!", next)
    else return (.tag "!" (String.ofList text), next)

/-- Reads a tag; a blank, the end of the line, or a comma in a flow collection follows it. -/
def tag? (inFlow : Bool) (cursor : Cursor) : Option (Token × Cursor) := do
  let (token, next) ←
    if cursor.rest[1]? = some '<' then bracketedTag? cursor else handledTag? cursor
  if atGap next.rest || (inFlow && next.rest.head? == some ',') then return (token, next) else none

/-! ## Directives -/

/-- Reads a number of at most nine digits. -/
def versionNumber? (cursor : Cursor) : Option (Nat × Cursor) :=
  let (digits, next) := cursor.takeWhile Char.isDigit
  if 9 < digits.length then none
  else (Text.Radix.digits? 10 digits).map fun value => (value, next)

/-- Reads the version of a document. -/
def version? (cursor : Cursor) : Option (Token × Cursor) := do
  let (major, next) ← versionNumber? (cursor.skipWhile isBlank)
  if next.rest.head? = some '.' then
    let (minor, last) ← versionNumber? (next.skip 1)
    return (.versionDirective major minor, last)
  else none

/-- Reads what a handle stands for. -/
def handleMeaning? (cursor : Cursor) : Option (Token × Cursor) := do
  let (handle, after) ← takeHandle? (cursor.skipWhile isBlank)
  if handle ≠ ['!'] ∧ !isWholeHandle handle then none
  else if !after.rest.head?.any isBlank then none
  else
    let (meaning, next) ← tagText? true [] (after.skipWhile isBlank)
    if atGap next.rest then
      return (.tagDirective (String.ofList handle) (String.ofList meaning), next)
    else none

/-- Reads a directive and the rest of its line, from its mark. -/
def directive? (cursor : Cursor) : Option (Token × Cursor) := do
  let (name, after) := (cursor.skip 1).takeWhile isNameChar
  if !atGap after.rest then none
  else
    let (token, next) ←
      if name = ['Y', 'A', 'M', 'L'] then version? after
      else if name = ['T', 'A', 'G'] then handleMeaning? after
      else none
    return (token, ← next.endLine?)

end PullConsumer.Yaml
