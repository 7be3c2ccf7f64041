/-
Dotted texts: segments joined by `.`, and a text cut at its dots.

Cutting never yields the empty list, and joining undoes it.  Joining is undone by
cutting only where no segment holds a dot, which is why segments with dots are
refused before they reach a joined key.
-/

namespace DottedConfig.Text

/-- The segments, a dot between each two. -/
def joinDots : List String → String
  | [] => ""
  | [s] => s
  | s :: rest => s ++ "." ++ joinDots rest

/-- The runs of characters between the occurrences of `sep`, empty ones included. -/
def cutChars (sep : Char) : List Char → List (List Char)
  | [] => [[]]
  | c :: rest =>
    if c = sep then [] :: cutChars sep rest
    else
      match cutChars sep rest with
      | [] => [[c]]
      | run :: runs => (c :: run) :: runs

/-- The segments of a dotted text. -/
def cutDots (s : String) : List String := (cutChars '.' s.toList).map String.ofList

/-- The lines of a text, without their line feeds. -/
def lines (s : String) : List String := (cutChars '\n' s.toList).map String.ofList

example : cutDots "a..b" = ["a", "", "b"] := by decide +kernel
example : joinDots ["a", "", "b"] = "a..b" := by decide +kernel

end DottedConfig.Text
