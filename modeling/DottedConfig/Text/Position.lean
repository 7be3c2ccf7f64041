/-
Where in a text something stands: its line and column, both counted from one.

A position is worked out from the characters in front of it.  Only the line feed
ends a line, and a column counts characters.
-/

namespace DottedConfig.Text

/-- A place in a text. -/
structure Position where
  /-- The line, counted from one. -/
  line : Nat
  /-- The column, counted from one. -/
  column : Nat
  deriving DecidableEq, Repr

namespace Position

/-- The first character of a text. -/
def start : Position := ⟨1, 1⟩

/-- The place after one more character. -/
def next (p : Position) (c : Char) : Position :=
  if c = '\n' then ⟨p.line + 1, 1⟩ else ⟨p.line, p.column + 1⟩

/-- The place of what follows these characters. -/
def after (before : List Char) : Position := before.foldl next start

end Position

end DottedConfig.Text
