/-
The tokens of YAML: indicators, scalars, and the beginnings and ends of blocks.

Indentation shows in tokens only: a collection that is written as a block begins with
a token of its own, before its first key or entry, and ends with one where a line
stands further left.
-/
import DottedConfig.Yaml.Scalar

namespace DottedConfig.Yaml

/-- What a token is. -/
inductive Token.Kind where
  /-- The end of the text. -/
  | streamEnd
  /-- `%YAML` and a version. -/
  | version (major minor : Nat)
  /-- `%TAG`, a handle and what it stands for. -/
  | handle (handle : String) (text : Tag)
  /-- The marker `---`. -/
  | documentStart
  /-- The marker `...`. -/
  | documentEnd
  /-- The beginning of a sequence of `-` entries. -/
  | blockSequenceStart
  /-- The beginning of a mapping of lines. -/
  | blockMappingStart
  /-- The end of either. -/
  | blockEnd
  /-- An opening square bracket. -/
  | flowSequenceStart
  /-- A closing square bracket. -/
  | flowSequenceEnd
  /-- An opening brace. -/
  | flowMappingStart
  /-- A closing brace. -/
  | flowMappingEnd
  /-- The `-` of an entry. -/
  | blockEntry
  /-- A comma. -/
  | flowEntry
  /-- A `?`, or the beginning of a key that has none. -/
  | key
  /-- A `:` after a key. -/
  | value
  /-- A `*` and a name. -/
  | alias (name : String)
  /-- An `&` and a name. -/
  | anchor (name : String)
  /-- A tag, by its handle and what follows it; a tag in full has no handle. -/
  | tag (handle : String) (suffix : Tag)
  /-- A scalar. -/
  | scalar (style : Style) (text : String)
  deriving DecidableEq, Repr

/-- A token and where it begins. -/
structure Token where
  /-- What it is. -/
  kind : Token.Kind
  /-- Where it begins. -/
  mark : Mark
  deriving Repr

end DottedConfig.Yaml
