import PullConsumer.Yaml.Cursor

/-! # Scalars of whole lines

A literal or folded scalar takes whole lines that are indented alike. Its header says what becomes
of the breaks at its end and may give the indentation. `none` says that the text is malformed.
-/

namespace PullConsumer.Yaml

/-- What becomes of the breaks at the end of a block scalar. -/
inductive Chomping
  | strip
  | clip
  | keep

/-- The header of a block scalar. -/
structure BlockHeader where
  chomping : Chomping
  /-- The indentation over that of the block around it; without it the first line decides. -/
  indentation : Option Nat

/-- The chomping that a sign asks for. -/
def chomping? : Char → Option Chomping
  | '+' => some .keep
  | '-' => some .strip
  | _ => none

/-- Reads an indentation of one to nine columns, if a digit is here. -/
def indentation? (cursor : Cursor) : Option (Option Nat × Cursor) :=
  match cursor.rest with
  | [] => some (none, cursor)
  | c :: _ =>
    if c == '0' then none
    else if '1' ≤ c ∧ c ≤ '9' then some (some (c.toNat - '0'.toNat), cursor.skip 1)
    else some (none, cursor)

/-- Reads a chomping sign, if there is one. -/
def takeChomping (cursor : Cursor) : Option Chomping × Cursor :=
  match cursor.rest.head?.bind chomping? with
  | some chomping => (some chomping, cursor.skip 1)
  | none => (none, cursor)

/-- Reads the header of a block scalar; sign and digit come in either order. -/
def blockHeader? (cursor : Cursor) : Option (BlockHeader × Cursor) := do
  let (first, afterSign) := takeChomping cursor
  let (indentation, afterDigit) ← indentation? afterSign
  let (second, next) :=
    match first with
    | some chomping => (some chomping, afterDigit)
    | none => if indentation.isSome then takeChomping afterDigit else (none, afterDigit)
  return (⟨second.getD .clip, indentation⟩, ← next.endLine?)

/-- The empty lines before a line of content. -/
structure EmptyLines where
  breaks : List Char
  /-- The greatest indentation among them and the line of content. -/
  width : Nat
  next : Cursor

/-- The place after the spaces that indent a line, up to a column if one is given. -/
def skipSpaces (indent : Option Nat) (cursor : Cursor) : Cursor :=
  let spaces := (cursor.rest.takeWhile (· == ' ')).length
  cursor.skip <|
    match indent with
    | none => spaces
    | some column => min spaces (column - cursor.column)

/-- Spaces do not lengthen what follows. -/
theorem length_skipSpaces_le (indent : Option Nat) (cursor : Cursor) :
    (skipSpaces indent cursor).rest.length ≤ cursor.rest.length :=
  Cursor.length_skip_le _ cursor

/-- Whether a column is left of an indentation, known or not. -/
def isBefore (indent : Option Nat) (column : Nat) : Bool :=
  match indent with
  | none => true
  | some limit => column < limit

/-- Reads empty lines; a tab may not stand in for the spaces that indent. -/
def emptyLines? (indent : Option Nat) (cursor : Cursor) : Option EmptyLines :=
  if isBefore indent (skipSpaces indent cursor).column ∧
      (skipSpaces indent cursor).rest.head? = some '\t' then
    none
  else
    match _ : (skipSpaces indent cursor).takeBreak? with
    | none =>
      some ⟨[], (skipSpaces indent cursor).column, skipSpaces indent cursor⟩
    | some (mark, after) =>
      (emptyLines? indent after).map fun more =>
        ⟨mark :: more.breaks, max (skipSpaces indent cursor).column more.width, more.next⟩
termination_by cursor.rest.length
decreasing_by
  exact Nat.lt_of_lt_of_le (Cursor.length_takeBreak?_lt (by assumption))
    (length_skipSpaces_le indent cursor)

/-- The lines of a block scalar that were read, and the breaks after them. -/
structure BlockLines where
  text : List Char
  /-- The break of the last line, if it has one. -/
  lastBreak : List Char
  /-- The breaks of the empty lines after it. -/
  breaks : List Char
  next : Cursor

/-- What the break between two lines stands for. Folding makes a space of a single line feed
between lines that begin without a blank. -/
def lineJoint (folded : Bool) (lastBreak breaks : List Char) (wasBlank isBlank : Bool) :
    List Char :=
  if folded && lastBreak == ['\n'] && !wasBlank && !isBlank then
    if breaks.isEmpty then [' '] else breaks
  else lastBreak ++ breaks

/-- Reads lines of content. Every line takes at least one character, so the length of what follows
is fuel enough. -/
def blockLines? (folded : Bool) (indent : Nat) :
    Nat → (lastBreak breaks : List Char) → (wasBlank : Bool) → Cursor → Option BlockLines
  | 0, lastBreak, breaks, _, cursor => some ⟨[], lastBreak, breaks, cursor⟩
  | fuel + 1, lastBreak, breaks, wasBlank, cursor =>
    if cursor.column ≠ indent ∨ cursor.rest.isEmpty then some ⟨[], lastBreak, breaks, cursor⟩
    else do
      let blank := cursor.rest.head?.any isBlank
      let (line, after) := cursor.takeWhile fun c => !isBreak c
      let (ending, next) :=
        match after.takeBreak? with
        | some (mark, next) => ([mark], next)
        | none => ([], after)
      let empty ← emptyLines? (some indent) next
      let more ← blockLines? folded indent fuel ending empty.breaks blank empty.next
      let joint := lineJoint folded lastBreak breaks wasBlank blank
      return { more with text := joint ++ line ++ more.text }

/-- What a chomping leaves of the breaks at the end. -/
def Chomping.tail (chomping : Chomping) (lines : BlockLines) : List Char :=
  match chomping with
  | .strip => []
  | .clip => lines.lastBreak
  | .keep => lines.lastBreak ++ lines.breaks

/-- Reads a block scalar from its mark, below a block of the given least indentation. -/
def blockScalar? (folded : Bool) (outer : Nat) (cursor : Cursor) :
    Option (List Char × Cursor) := do
  let (header, start) ← blockHeader? (cursor.skip 1)
  let given := header.indentation.map fun columns => outer - 1 + columns
  let empty ← emptyLines? given start
  let indent := given.getD (max empty.width (max outer 1))
  let lines ← blockLines? folded indent (empty.next.rest.length) [] empty.breaks false empty.next
  return (lines.text ++ header.chomping.tail lines, lines.next)

end PullConsumer.Yaml
