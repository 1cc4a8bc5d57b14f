import PullConsumer.Json.Value

/-! # The text of a JSON value

Objects keep the order of their members. Inside a string the quote, the backslash and the controls
are escaped, and every other character stands for itself.
-/

namespace PullConsumer.Json

/-- The written form of one character of a string. -/
def escapeChar (c : Char) : List Char :=
  if c = '"' then ['\\', '"']
  else if c = '\\' then ['\\', '\\']
  else if c = '\n' then ['\\', 'n']
  else if c = '\r' then ['\\', 'r']
  else if c = '\t' then ['\\', 't']
  else if c = '\x08' then ['\\', 'b']
  else if c = '\x0c' then ['\\', 'f']
  else if c.toNat < 32 then
    let digits := Nat.toDigits 16 c.toNat
    ['\\', 'u'] ++ List.replicate (4 - digits.length) '0' ++ digits
  else [c]

def stringText (content : String) : String :=
  String.ofList ('"' :: content.toList.flatMap escapeChar ++ ['"'])

mutual

def Value.text : Value → String
  | .null => "null"
  | .bool flag => if flag then "true" else "false"
  | .integer number => toString number
  | .float content => content
  | .string content => stringText content
  | .array items => "[" ++ ",".intercalate (itemTexts items) ++ "]"
  | .object members => "\x7b" ++ ",".intercalate (memberTexts members) ++ "\x7d"

def itemTexts : List Value → List String
  | [] => []
  | item :: rest => item.text :: itemTexts rest

def memberTexts : List (String × Value) → List String
  | [] => []
  | (name, item) :: rest => (stringText name ++ ":" ++ item.text) :: memberTexts rest

end

end PullConsumer.Json
