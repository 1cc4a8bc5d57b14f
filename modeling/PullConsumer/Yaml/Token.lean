/-! # Tokens

The tokens of a text. Marks that only indentation shows, such as the start and the end of a block,
are tokens as well.
-/

namespace PullConsumer.Yaml

/-- How a scalar is written. -/
inductive ScalarStyle
  | plain
  | quoted
  | literal
  | folded
deriving DecidableEq

/-- One token of a text. -/
inductive Token
  | streamEnd
  | versionDirective (major minor : Nat)
  /-- What a handle in front of a tag stands for. -/
  | tagDirective (handle meaning : String)
  | documentStart
  | documentEnd
  | blockSequenceStart
  | blockMappingStart
  | blockEnd
  | flowSequenceStart
  | flowSequenceEnd
  | flowMappingStart
  | flowMappingEnd
  | blockEntry
  | flowEntry
  | key
  | value
  | alias (name : String)
  | anchor (name : String)
  | tag (handle rest : String)
  | scalar (text : String) (style : ScalarStyle)
deriving DecidableEq

end PullConsumer.Yaml
