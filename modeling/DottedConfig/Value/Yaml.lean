/-
Values as YAML, in block style.

Each level is indented by two blanks, but a sequence under a key is not indented more
than the key.  A collection within a sequence begins on the line of its `-`.  A key of
several lines, or of more than 128 bytes, is written after a `?` on a line of its own.
Every value ends with a line feed.
-/
import DottedConfig.Value.Yaml.Scalar

namespace DottedConfig.Value

namespace Block

/-- The most bytes that a key without a `?` can have. -/
def longestKey : Nat := 128

/-- Whether a key needs no `?`. -/
def isSimpleKey (key : String) : Bool :=
  !key.toList.any isBreak && key.utf8ByteSize ≤ longestKey

/-- Where a value begins. -/
inductive Place where
  /-- On a line that is filled up to this column. -/
  | inLine (column : Nat)
  /-- Right after the colon of a key at this column. -/
  | afterKey (column : Nat)

namespace Place

/-- The column of the dashes of a sequence. -/
def dashes : Place → Nat
  | inLine column | afterKey column => column

/-- The column of the keys of a mapping, and of the further lines of a text. -/
def keys : Place → Nat
  | inLine column => column
  | afterKey column => column + 2

/-- What comes before a value of one piece. -/
def lead : Place → String
  | inLine _ => ""
  | afterKey _ => " "

/-- What comes before the first line of a value whose lines begin at a column. -/
def opening (place : Place) (column : Nat) : String :=
  match place with
  | inLine _ => ""
  | afterKey _ => "\n" ++ blanks column

end Place

mutual

/-- A value, with the line feed after it. -/
def valueAt (place : Place) : Value → String
  | null => place.lead ++ "null\n"
  | bool b => place.lead ++ toString b ++ "\n"
  | integer i => place.lead ++ toString i.toInt ++ "\n"
  | float x => place.lead ++ Yaml.numbers.text x ++ "\n"
  | string s => place.lead ++ scalarText place.keys s
  | sequence items =>
    if items.isEmpty then place.lead ++ "[]\n"
    else
      place.opening place.dashes ++
        (blanks place.dashes).intercalate (itemsAt place.dashes items)
  | mapping entries =>
    if entries.isEmpty then place.lead ++ "\x7b\x7d\n"
    else place.opening place.keys ++ (blanks place.keys).intercalate (entriesAt place.keys entries)

/-- The items of a sequence whose dashes stand at this column. -/
def itemsAt (column : Nat) : List Value → List String
  | [] => []
  | v :: rest => ("- " ++ valueAt (.inLine (column + 2)) v) :: itemsAt column rest

/-- The entries of a mapping whose keys stand at this column. -/
def entriesAt (column : Nat) : List (String × Value) → List String
  | [] => []
  | (k, v) :: rest =>
    (if isSimpleKey k then inlineText (column + 2) k ++ ":" ++ valueAt (.afterKey column) v
    else
      "? " ++ scalarText (column + 2) k ++ blanks column ++ ": " ++
        valueAt (.inLine (column + 2)) v) :: entriesAt column rest

end

end Block

/-- A value as YAML.  Further lines of a text that stands alone are indented too. -/
def yaml : Value → String
  | string s => Block.scalarText 2 s
  | v => Block.valueAt (.inLine 0) v

example : yaml (.string "yes") = "yes\n" := by decide +kernel
example : yaml (.string "007") = "'007'\n" := by decide +kernel
example : yaml (.mapping [("l", .sequence [.string "a\n", .null])]) = "l:\n- |\n  a\n- null\n" := by
  decide +kernel
example : yaml (.mapping [("a\nb", .sequence [.integer 1])]) = "? |-\n  a\n  b\n: - 1\n" := by
  decide +kernel

end DottedConfig.Value
