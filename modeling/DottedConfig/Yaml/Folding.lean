/-
Line folding: what white space within a scalar becomes.

Blanks between two words of one line are kept.  A line end between them takes the
blanks around it away and becomes one blank; with empty lines after it, these become
the line ends and it vanishes itself.  A separator of Unicode is never folded.
-/
import DottedConfig.Yaml.Source

namespace DottedConfig.Yaml

/-- The white space since the last character that was not.  The latest comes first. -/
inductive Gap where
  /-- Blanks on one line. -/
  | blanks (cs : List Char)
  /-- Line ends: the first, unless it was escaped, and those after it. -/
  | breaks (first : Option Char) (more : List Char)

namespace Gap

/-- No white space. -/
def none : Gap := .blanks []

/-- Whether there is any white space. -/
def isSome : Gap → Bool
  | .blanks cs => !cs.isEmpty
  | .breaks .. => true

/-- Whether a line has ended. -/
def isBroken : Gap → Bool
  | .blanks _ => false
  | .breaks .. => true

/-- One more blank; at the beginning of a line it does not count. -/
def addBlank (c : Char) : Gap → Gap
  | .blanks cs => .blanks (c :: cs)
  | gap => gap

/-- One more line end. -/
def addBreak (c : Char) : Gap → Gap
  | .blanks _ => .breaks (some c) []
  | .breaks first more => .breaks first (c :: more)

/-- What the white space becomes, the last character first. -/
def folded : Gap → List Char
  | .blanks cs => cs
  | .breaks (some '\n') [] => [' ']
  | .breaks (some '\n') more => more
  | .breaks first more => more ++ first.toList

end Gap

end DottedConfig.Yaml
