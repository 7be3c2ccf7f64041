/-
Texts as YAML scalars.

A text is written plain where that reads back as the same text, else in single quotes,
else, if single quotes cannot hold it, in double quotes with escapes.  A text of
several lines is written as a literal block unless a blank at the end of a line, or a
character that is not printable, forces double quotes.  Lines are never folded.
-/
import DottedConfig.Value.Json
import DottedConfig.Yaml.Scalar

namespace DottedConfig.Value.Block

/-! ### Classes of characters -/

/-- Whether a character ends a line of YAML. -/
def isBreak (c : Char) : Bool :=
  c == '\n' || c == '\r' || c == '\u0085' || c == '\u2028' || c == '\u2029'

/-- Whether a character is written as it is. -/
def isPrintable (c : Char) : Bool :=
  let n := c.toNat
  n == 10 || (0x20 ≤ n && n ≤ 0x7E) || (0xA0 ≤ n && n ≤ 0xD7FF) ||
    (0xE000 ≤ n && n ≤ 0xFFFD && n != 0xFEFF) || 0x10000 ≤ n

/-! ### Which way to write a text -/

/-- The characters that a plain scalar cannot begin with. -/
def indicators : List Char :=
  ['#', ',', '[', ']', '\x7b', '\x7d', '&', '*', '!', '|', '>', '\'', '"', '%', '@', '\x60']

/-- Whether a text ends here, or a word of it does. -/
def endsWord : List Char → Bool
  | [] => true
  | c :: _ => c == ' ' || c == '\t' || isBreak c

/-- Whether `: ` or ` #` occurs, given whether a blank comes before. -/
def hasSeparator (afterBlank : Bool) : List Char → Bool
  | [] => false
  | c :: rest =>
    (c == ':' && endsWord rest) || (c == '#' && afterBlank) ||
      hasSeparator (c == ' ' || c == '\t' || isBreak c) rest

/-- Whether a character of the first class stands directly before one of the second. -/
def hasPair (p q : Char → Bool) : List Char → Bool
  | a :: b :: rest => (p a && q b) || hasPair p q (b :: rest)
  | _ => false

/-- Whether a text has the look of an indicator or a marker at its beginning. -/
def beginsLikeMarkup (cs : List Char) : Bool :=
  match cs with
  | '-' :: '-' :: '-' :: _ | '.' :: '.' :: '.' :: _ => true
  | c :: rest =>
    indicators.contains c || ((c == '-' || c == '?' || c == ':') && endsWord rest)
  | [] => false

/-- Whether the plain text is read as a text, and not as another type. -/
def readsAsText (s : String) : Bool :=
  match Yaml.Scalar.ofPlain s with
  | .ok (.string _) => !Yaml.Scalar.hasLeadingZero s.toList
  | _ => false

/-- Whether there is a character that only double quotes can hold. -/
def needsEscapes (cs : List Char) : Bool :=
  cs.any (!isPrintable ·) || hasPair (· == ' ') isBreak cs

/-- Whether a text can be written plain. -/
def allowsPlain (s : String) : Bool :=
  let cs := s.toList
  readsAsText s && !needsEscapes cs && !cs.any isBreak &&
    cs.head? != some ' ' && cs.getLast? != some ' ' &&
    !beginsLikeMarkup cs && !hasSeparator true cs

/-- Whether a text can be written in single quotes. -/
def allowsQuotes (cs : List Char) : Bool :=
  !needsEscapes cs && !hasPair isBreak (· == ' ') cs

/-- Whether a text can be written as a literal block. -/
def allowsBlock (cs : List Char) : Bool := !needsEscapes cs && cs.getLast? != some ' '

/-! ### The three ways besides the plain one -/

/-- So many blanks. -/
def blanks (n : Nat) : String := String.ofList (List.replicate n ' ')

/-- A text between single quotes; `broken` tells whether a line has just ended. -/
def singleQuoted (indent : Nat) (broken : Bool) : List Char → List Char
  | [] => if broken then List.replicate indent ' ' else []
  | c :: rest =>
    if isBreak c then c :: singleQuoted indent true rest
    else
      (if broken then List.replicate indent ' ' else []) ++
        (if c = '\'' then ['\'', '\''] else [c]) ++ singleQuoted indent false rest

/-- The letter that a character is escaped by. -/
def escapeLetter? : Char → Option Char
  | '\x00' => some '0'
  | '\x07' => some 'a'
  | '\x08' => some 'b'
  | '\t' => some 't'
  | '\n' => some 'n'
  | '\x0b' => some 'v'
  | '\x0c' => some 'f'
  | '\r' => some 'r'
  | '\x1b' => some 'e'
  | '"' => some '"'
  | '\\' => some '\\'
  | '\u0085' => some 'N'
  | '\u2028' => some 'L'
  | '\u2029' => some 'P'
  | _ => none

/-- A number in so many upper-case hexadecimal digits. -/
def hexCode (length n : Nat) : List Char :=
  (List.range length).reverse.map fun place => (hexDigit (n / Nat.pow 16 place)).toUpper

/-- A character between double quotes. -/
def doubleQuotedChar (c : Char) : List Char :=
  match escapeLetter? c with
  | some letter => ['\\', letter]
  | none =>
    if isPrintable c then [c]
    else if c.toNat < 0x100 then '\\' :: 'x' :: hexCode 2 c.toNat
    else if c.toNat < 0x10000 then '\\' :: 'u' :: hexCode 4 c.toNat
    else '\\' :: 'U' :: hexCode 8 c.toNat

/-- The indentation and the sign that the header of a literal block needs. -/
def blockHeader (cs : List Char) : String :=
  let indent := if cs.head?.any fun c => c == ' ' || isBreak c then "2" else ""
  let sign := match cs.reverse with
    | [] => "-"
    | [c] => if isBreak c then "+" else "-"
    | c :: d :: _ => if !isBreak c then "-" else if isBreak d then "+" else ""
  "|" ++ indent ++ sign

/-- The lines of a literal block; `broken` tells whether a line has just ended. -/
def blockLines (indent : Nat) (broken : Bool) : List Char → List Char
  | [] => if broken then [] else ['\n']
  | c :: rest =>
    if isBreak c then c :: blockLines indent true rest
    else
      (if broken then List.replicate indent ' ' else []) ++ c :: blockLines indent false rest

/-- A text that is not written as a block; `indent` is the column of any further lines. -/
def inlineText (indent : Nat) (s : String) : String :=
  let cs := s.toList
  if !cs.contains '\n' && allowsPlain s then s
  else if !cs.contains '\n' && allowsQuotes cs then
    "'" ++ String.ofList (singleQuoted indent false cs) ++ "'"
  else "\"" ++ String.ofList (cs.flatMap doubleQuotedChar) ++ "\""

/-- A text with the line feed after it; `indent` is the column of any further lines. -/
def scalarText (indent : Nat) (s : String) : String :=
  let cs := s.toList
  if cs.contains '\n' && allowsBlock cs then
    blockHeader cs ++ "\n" ++ String.ofList (blockLines indent true cs)
  else inlineText indent s ++ "\n"

end DottedConfig.Value.Block
