/-
Values as JSON.

There are two forms: one line without blanks, and one line for each scalar with two
blanks of indentation for each level.  Only quotes, backslashes and control
characters are escaped.  JSON has no word for the numbers that are not finite, so
they are written as null.
-/
import DottedConfig.Binary64.Layout
import DottedConfig.Value

namespace DottedConfig.Value

/-- Numbers are positional from `1e-5` up to below `1e16`; whole ones keep a `.0`. -/
def jsonNumbers : Binary64.Layout :=
  { positional := fun power => -5 ≤ power && power < 16
    wholeTail := ".0"
    plus := "+"
    nan := "null"
    infinite := fun _ => "null" }

/-- A digit of base sixteen, in lower case. -/
def hexDigit (n : Nat) : Char := Nat.digitChar (n % 16)

/-- A character within quotes. -/
def jsonChar (c : Char) : List Char :=
  match c with
  | '"' => ['\\', '"']
  | '\\' => ['\\', '\\']
  | '\n' => ['\\', 'n']
  | '\r' => ['\\', 'r']
  | '\t' => ['\\', 't']
  | '\x08' => ['\\', 'b']
  | '\x0c' => ['\\', 'f']
  | c =>
    if c.toNat < 0x20 then ['\\', 'u', '0', '0', hexDigit (c.toNat / 16), hexDigit c.toNat]
    else [c]

/-- A text in quotes. -/
def jsonText (s : String) : String :=
  "\"" ++ String.ofList (s.toList.flatMap jsonChar) ++ "\""

/-- What a form of JSON puts between the parts of a collection. -/
structure JsonForm where
  /-- What stands before an item, or the closing bracket, at a level of nesting. -/
  newline : Nat → String
  /-- What stands between a key and its value. -/
  colon : String

/-- A bracketed row of texts; without any there is nothing between the brackets. -/
def JsonForm.bracketed (form : JsonForm) (level : Nat) (opening closing : String) :
    List String → String
  | [] => opening ++ closing
  | parts =>
    opening ++ form.newline (level + 1) ++ ("," ++ form.newline (level + 1)).intercalate parts
      ++ form.newline level ++ closing

mutual

/-- A value at a level of nesting. -/
def jsonAt (form : JsonForm) (level : Nat) : Value → String
  | null => "null"
  | bool b => toString b
  | integer i => toString i.toInt
  | float x => jsonNumbers.text x
  | string s => jsonText s
  | sequence items => form.bracketed level "[" "]" (jsonItems form (level + 1) items)
  | mapping entries =>
    form.bracketed level "\x7b" "\x7d" (jsonEntries form (level + 1) entries)

/-- A row of values at a level of nesting. -/
def jsonItems (form : JsonForm) (level : Nat) : List Value → List String
  | [] => []
  | v :: rest => jsonAt form level v :: jsonItems form level rest

/-- Entries at a level of nesting. -/
def jsonEntries (form : JsonForm) (level : Nat) : List (String × Value) → List String
  | [] => []
  | (k, v) :: rest =>
    (jsonText k ++ form.colon ++ jsonAt form level v) :: jsonEntries form level rest

end

/-- A value as JSON on one line. -/
def json (v : Value) : String := jsonAt ⟨fun _ => "", ":"⟩ 0 v

/-- A value as JSON over several lines, without a line feed at the end. -/
def jsonPretty (v : Value) : String :=
  jsonAt ⟨fun level => "\n" ++ String.ofList (List.replicate (2 * level) ' '), ": "⟩ 0 v

example : json (.mapping [("a", .sequence [.bool true, .string "\t"])]) =
    "\x7b\"a\":[true,\"\\t\"]\x7d" := by decide +kernel
example : jsonPretty (.sequence [.integer 1, .mapping []]) = "[\n  1,\n  \x7b\x7d\n]" := by
  decide +kernel
example : json (.float ⟨0x4341c37937e08000⟩) = "1e+16" := by decide +kernel

end DottedConfig.Value
