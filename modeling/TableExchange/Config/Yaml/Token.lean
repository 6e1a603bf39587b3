/-!
The tokens of YAML. Where collections start and end is a token too, whether brackets or indentation
say so.
-/

namespace TableExchange.Yaml

/-- How a scalar is written. Only a plain one can be anything but a text. -/
inductive ScalarStyle
  | plain
  | quoted
deriving DecidableEq, Repr

/-- A token. A tag has a handle and a suffix. -/
inductive Token
  | streamEnd
  | version
  | tagDirective (handle lead : String)
  | documentStart
  | documentEnd
  | blockSequenceStart
  | blockMappingStart
  | blockEnd
  | flowSequenceStart
  | flowSequenceEnd
  | flowMappingStart
  | flowMappingEnd
  | blockEntry
  | flowEntry
  | key
  | value
  | aliasOf (name : String)
  | anchor (name : String)
  | tag (handle suffix : String)
  | scalar (style : ScalarStyle) (text : String)
deriving DecidableEq, Repr

end TableExchange.Yaml
