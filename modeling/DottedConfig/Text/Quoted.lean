/-
Texts in double quotes, as logs show them.

What cannot be seen is escaped: a tab, a line end and a NUL by a letter or digit,
every other hidden character by its code in braces.
-/
import DottedConfig.Text.Hidden

namespace DottedConfig.Text

/-- A character between double quotes. -/
def quotedChar (c : Char) : List Char :=
  match c with
  | '\x00' => ['\\', '0']
  | '\t' => ['\\', 't']
  | '\r' => ['\\', 'r']
  | '\n' => ['\\', 'n']
  | '\\' => ['\\', '\\']
  | '"' => ['\\', '"']
  | c =>
    if isHidden c then ['\\', 'u', '\x7b'] ++ Nat.toDigits 16 c.toNat ++ ['\x7d'] else [c]

/-- A text in double quotes. -/
def quoted (s : String) : String :=
  "\"" ++ String.ofList (s.toList.flatMap quotedChar) ++ "\""

/-- An optional text in double quotes. -/
def quoted? : Option String → String
  | none => "None"
  | some s => "Some(" ++ quoted s ++ ")"

end DottedConfig.Text
