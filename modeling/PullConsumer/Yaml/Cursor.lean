/-! # Places in a text

Line breaks, blanks and the marks that separate documents, seen from a place in a text. A place
counts its characters, its lines and the columns of its line from zero.
-/

namespace PullConsumer.Yaml

/-- A space or a tab. -/
def isBlank (c : Char) : Bool := c == ' ' || c == '\t'

/-- A character that ends a line. -/
def isBreak (c : Char) : Bool :=
  c == '\r' || c == '\n' || c == '\u0085' || c == '\u2028' || c == '\u2029'

/-- Whether a character may occur in a text at all; most controls may not. -/
def isPermitted (c : Char) : Bool :=
  let n := c.toNat
  n == 0x9 || n == 0xA || n == 0xD || (0x20 ≤ n && n ≤ 0x7E) || n == 0x85 ||
    (0xA0 ≤ n && n ≤ 0xD7FF) || (0xE000 ≤ n && n ≤ 0xFFFD) || 0x10000 ≤ n

/-- Whether a word ends here: at a blank, or where a line ends. -/
def atGap : List Char → Bool
  | [] => true
  | c :: _ => isBlank c || isBreak c

/-- The break that a line ends with. Only the two separators keep their own character. -/
def breakChar (c : Char) : Char :=
  if c == '\u2028' || c == '\u2029' then c else '\n'

/-- A place in a text and what follows it. -/
structure Cursor where
  rest : List Char
  index : Nat
  line : Nat
  column : Nat

namespace Cursor

def start (text : List Char) : Cursor := ⟨text, 0, 0, 0⟩

/-- The place some characters further on the same line. -/
def skip (count : Nat) (cursor : Cursor) : Cursor :=
  ⟨cursor.rest.drop count, cursor.index + count, cursor.line, cursor.column + count⟩

/-- The place after all characters of a kind. -/
def skipWhile (kind : Char → Bool) (cursor : Cursor) : Cursor :=
  cursor.skip (cursor.rest.takeWhile kind).length

/-- The characters of a kind from here on, and the place after them. -/
def takeWhile (kind : Char → Bool) (cursor : Cursor) : List Char × Cursor :=
  (cursor.rest.takeWhile kind, cursor.skipWhile kind)

/-- The break at this place and the start of the next line. -/
def takeBreak? (cursor : Cursor) : Option (Char × Cursor) :=
  match cursor.rest with
  | '\r' :: '\n' :: rest => some ('\n', ⟨rest, cursor.index + 2, cursor.line + 1, 0⟩)
  | c :: rest =>
    if isBreak c then some (breakChar c, ⟨rest, cursor.index + 1, cursor.line + 1, 0⟩) else none
  | [] => none

/-- Whether a line begins here that marks the start or the end of a document. -/
def atDocumentMark (cursor : Cursor) : Bool :=
  cursor.column == 0 &&
    match cursor.rest with
    | '-' :: '-' :: '-' :: rest => atGap rest
    | '.' :: '.' :: '.' :: rest => atGap rest
    | _ => false

theorem length_skip_le (count : Nat) (cursor : Cursor) :
    (cursor.skip count).rest.length ≤ cursor.rest.length := by
  simp [skip]

theorem length_skipWhile_le (kind : Char → Bool) (cursor : Cursor) :
    (cursor.skipWhile kind).rest.length ≤ cursor.rest.length :=
  length_skip_le _ cursor

/-- A break shortens what follows. -/
theorem length_takeBreak?_lt {cursor next : Cursor} {mark : Char}
    (taken : cursor.takeBreak? = some (mark, next)) :
    next.rest.length < cursor.rest.length := by
  unfold takeBreak? at taken
  split at taken
  · rename_i rest same
    cases taken
    rw [same]
    exact Nat.lt_succ_of_lt (Nat.lt_succ_self _)
  · rename_i c rest _ same
    split at taken
    · cases taken
      rw [same]
      simp
    · cases taken
  · cases taken

/-- The place after a comment, if one begins here. -/
def skipComment (cursor : Cursor) : Cursor :=
  if cursor.rest.head? = some '#' then cursor.skipWhile fun c => !isBreak c else cursor

theorem length_skipComment_le (cursor : Cursor) :
    (cursor.skipComment).rest.length ≤ cursor.rest.length := by
  unfold skipComment
  split
  · exact length_skipWhile_le _ cursor
  · exact Nat.le_refl _

/-- The rest of a line that may hold nothing but blanks and a comment; then the next line. -/
def endLine? (cursor : Cursor) : Option Cursor :=
  let after := (cursor.skipWhile isBlank).skipComment
  match after.takeBreak? with
  | some (_, next) => some next
  | none => if after.rest.isEmpty then some after else none

/-- The place after the blanks that begin a line; `none` if a tab stands left of a column. -/
def skipIndent? (limit : Nat) (cursor : Cursor) : Option Cursor :=
  if '\t' ∈ (cursor.rest.takeWhile isBlank).take (limit - cursor.column) then none
  else some (cursor.skipWhile isBlank)

/-- To skip an indentation does not lengthen what is left. -/
theorem length_skipIndent?_le {limit : Nat} {cursor next : Cursor}
    (skipped : cursor.skipIndent? limit = some next) :
    next.rest.length ≤ cursor.rest.length := by
  unfold skipIndent? at skipped
  split at skipped
  · cases skipped
  · cases skipped
    exact length_skipWhile_le _ cursor

/-- The breaks of the empty lines from here on, and the place where the next word begins. -/
def takeBreaks? (limit : Nat) (cursor : Cursor) : Option (List Char × Cursor) :=
  match _ : cursor.skipIndent? limit with
  | none => none
  | some next =>
    match _ : next.takeBreak? with
    | none => some ([], next)
    | some (mark, after) =>
      (takeBreaks? limit after).map fun found => (mark :: found.1, found.2)
termination_by cursor.rest.length
decreasing_by
  exact Nat.lt_of_lt_of_le (length_takeBreak?_lt (by assumption))
    (length_skipIndent?_le (by assumption))

end Cursor

/-- What stands between two words of a scalar. -/
inductive Gap
  | blanks (text : List Char)
  | breaks (first : Char) (more : List Char)

namespace Gap

def empty : Gap := .blanks []

/-- What a gap stands for: a single line feed for a space, more of them for all but the first. -/
def text : Gap → List Char
  | .blanks text => text
  | .breaks first more =>
    if first == '\n' then (if more.isEmpty then [' '] else more) else first :: more

/-- Whether a gap goes over a line. -/
def isBreaks : Gap → Bool
  | .blanks _ => false
  | .breaks _ _ => true

end Gap

/-- The gap at a place, and the place after it. -/
def Cursor.takeGap? (limit : Nat) (cursor : Cursor) : Option (Gap × Cursor) :=
  let (blanks, next) := cursor.takeWhile isBlank
  match next.takeBreak? with
  | none => some (.blanks blanks, next)
  | some (first, after) =>
    (after.takeBreaks? limit).map fun found => (.breaks first found.1, found.2)

end PullConsumer.Yaml
