/-
What can be wrong with a YAML text, and how it is worded.

The wordings are short ones.  They name the fault, and leave out what was being read when it
was met and where that began; other readers of YAML tell these too, and word some faults in
another way.
-/

namespace DottedConfig.Yaml

/-- A place in a YAML text.  Lines and columns count from zero, columns in characters. -/
structure Mark where
  /-- Octets in front, in UTF-8. -/
  offset : Nat
  /-- Line breaks in front. -/
  line : Nat
  /-- Characters in front on the same line. -/
  column : Nat
  deriving DecidableEq, Repr, Inhabited

/-- The faults of a YAML text. -/
inductive Problem where
  /-- A character that no YAML text may hold. -/
  | forbiddenCharacter (code : Nat)
  /-- A character that begins no token. -/
  | strayCharacter (c : Char)
  /-- A `-` entry where the line already holds something else. -/
  | entryNotAllowed
  /-- A `?` key where the line already holds something else. -/
  | keyNotAllowed
  /-- A `:` that no key precedes. -/
  | valueNotAllowed
  /-- A key at the place of a key, but no `:` after it. -/
  | keyWithoutColon
  /-- A `%` line that is not a directive. -/
  | badDirective
  /-- A directive other than `%YAML` and `%TAG`. -/
  | unknownDirective (name : String)
  /-- A directive given twice for one document. -/
  | repeatedDirective
  /-- A version of YAML other than 1.1 and 1.2. -/
  | unsupportedVersion (major minor : Nat)
  /-- An anchor or alias without a proper name. -/
  | badAnchor
  /-- A tag that is not spelled as one. -/
  | badTag
  /-- A tag with a handle that no directive declares. -/
  | unknownHandle (handle : String)
  /-- A block scalar with a line other than its indicators after `|` or `>`. -/
  | badBlockHeader
  /-- A tab where only blanks can indent. -/
  | tabIndent
  /-- A quoted scalar without its closing quote. -/
  | unclosedQuote
  /-- A document marker within a quoted scalar. -/
  | markerInQuote
  /-- A backslash before a character that it does not escape. -/
  | unknownEscape (c : Char)
  /-- An escape with too few hexadecimal digits, or for no character. -/
  | badCodePoint
  /-- A `:` before a flow indicator, within a plain scalar. -/
  | strayColon
  /-- No node where one has to stand. -/
  | expectedNode
  /-- Something other than an entry in a block sequence. -/
  | expectedEntry
  /-- Something other than a key in a block mapping. -/
  | expectedKey
  /-- Neither a comma nor the closing bracket in a flow collection. -/
  | expectedComma (closing : Char)
  /-- Something other than a document after a directive. -/
  | expectedDocument
  /-- An alias of an anchor that no node before it has. -/
  | unknownAnchor (name : String)
  /-- Collections nested too deeply. -/
  | tooDeep
  /-- Aliases that stand for too much. -/
  | tooManyAliases
  /-- Two equal keys in one mapping. -/
  | repeatedKey
  /-- An integer that no number type holds. -/
  | integerTooLarge
  /-- A scalar that is not of the type its tag names. -/
  | wrongForTag (expected : String)
  /-- More than one document. -/
  | severalDocuments
  deriving DecidableEq, Repr

/-- The wording of a fault. -/
def Problem.message : Problem → String
  | .forbiddenCharacter code => s!"the character with code {code} is not allowed in YAML"
  | .strayCharacter c => s!"found character '{c}' that cannot start any token"
  | .entryNotAllowed => "block sequence entries are not allowed here"
  | .keyNotAllowed => "mapping keys are not allowed here"
  | .valueNotAllowed => "mapping values are not allowed here"
  | .keyWithoutColon => "could not find expected ':'"
  | .badDirective => "did not find a proper directive"
  | .unknownDirective name => s!"found unknown directive '{name}'"
  | .repeatedDirective => "found a directive twice"
  | .unsupportedVersion major minor => s!"found unsupported YAML version {major}.{minor}"
  | .badAnchor => "did not find a proper anchor name"
  | .badTag => "did not find a proper tag"
  | .unknownHandle handle => s!"found undefined tag handle '{handle}'"
  | .badBlockHeader => "did not find a proper block scalar header"
  | .tabIndent => "found a tab character where indentation is expected"
  | .unclosedQuote => "found unexpected end of text in a quoted scalar"
  | .markerInQuote => "found unexpected document indicator in a quoted scalar"
  | .unknownEscape c => s!"found unknown escape character '{c}'"
  | .badCodePoint => "did not find a proper character code"
  | .strayColon => "found unexpected ':'"
  | .expectedNode => "did not find expected node content"
  | .expectedEntry => "did not find expected '-' indicator"
  | .expectedKey => "did not find expected key"
  | .expectedComma closing => s!"did not find expected ',' or '{closing}'"
  | .expectedDocument => "did not find expected document start"
  | .unknownAnchor name => s!"unknown anchor '{name}'"
  | .tooDeep => "recursion limit exceeded"
  | .tooManyAliases => "repetition limit exceeded"
  | .repeatedKey => "duplicate entry with the same key"
  | .integerTooLarge => "integer out of range"
  | .wrongForTag expected => s!"invalid value, expected {expected}"
  | .severalDocuments => "more than one document in the text"

/-- A fault and where it was found.  Faults of the whole text have no place. -/
structure Error where
  /-- The fault. -/
  problem : Problem
  /-- Its place. -/
  mark : Option Mark
  deriving DecidableEq, Repr

end DottedConfig.Yaml
