/-
The plain text of a value, as shown to a reader.

Texts stand as they are, numbers are written positionally with the fewest digits that
read back, and a collection is bracketed.  Plain text is not meant to be read back.
-/
import DottedConfig.Binary64.Layout
import DottedConfig.Value

namespace DottedConfig.Value

/-- Plain numbers have no exponent, and whole ones no point. -/
def plainNumbers : Binary64.Layout :=
  { positional := fun _ => true
    wholeTail := ""
    plus := ""
    nan := "NaN"
    infinite := fun negative => if negative then "-inf" else "inf" }

mutual

/-- The plain text of a value. -/
def plain : Value → String
  | null => "null"
  | bool b => toString b
  | integer i => toString i.toInt
  | float x => plainNumbers.text x
  | string s => s
  | sequence items => "[" ++ ", ".intercalate (plainItems items) ++ "]"
  | mapping entries => "\x7b" ++ ", ".intercalate (plainEntries entries) ++ "\x7d"

/-- The plain texts of a row of values. -/
def plainItems : List Value → List String
  | [] => []
  | v :: rest => v.plain :: plainItems rest

/-- The plain texts of entries, each a key, a colon and a value. -/
def plainEntries : List (String × Value) → List String
  | [] => []
  | (k, v) :: rest => (k ++ ": " ++ v.plain) :: plainEntries rest

end

example : plain (.float ⟨0x4341c37937e08000⟩) = "10000000000000000" := by decide +kernel

end DottedConfig.Value
