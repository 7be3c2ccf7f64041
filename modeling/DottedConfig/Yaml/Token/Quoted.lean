/-
Quoted scalars.

In single quotes nothing is escaped but the quote, which is written twice.  In double
quotes a backslash begins an escape, and before a line end it joins the two lines.
Lines are folded in both.  A document marker cannot stand within quotes.
-/
import DottedConfig.Yaml.Folding
import DottedConfig.Yaml.Scalar

namespace DottedConfig.Yaml.Quoted

/-- What a backslash and this character stand for. -/
def escaped? : Char → Option Char
  | '0' => some '\x00'
  | 'a' => some '\x07'
  | 'b' => some '\x08'
  | 't' => some '\t'
  | '\t' => some '\t'
  | 'n' => some '\n'
  | 'v' => some '\x0b'
  | 'f' => some '\x0c'
  | 'r' => some '\r'
  | 'e' => some '\x1b'
  | ' ' => some ' '
  | '"' => some '"'
  | '/' => some '/'
  | '\\' => some '\\'
  | 'N' => some '\u0085'
  | '_' => some '\u00a0'
  | 'L' => some '\u2028'
  | 'P' => some '\u2029'
  | _ => none

/-- How many hexadecimal digits follow a backslash and this character. -/
def codeLength? : Char → Option Nat
  | 'x' => some 2
  | 'u' => some 4
  | 'U' => some 8
  | _ => none

/-- The character whose hexadecimal code these digits are, if there are as many as there must be. -/
def coded? (length : Nat) (digits : List Char) : Option Char :=
  if digits.length < length then none
  else ((Scalar.natural? 16 digits).filter Nat.isValidChar).map Char.ofNat

/--
Reads on within a quoted scalar, after its opening quote.

`seen` is the text so far with its last character first, `gap` the white space after it.
-/
def scan (double : Bool) (seen : List Char) (gap : Gap) (cs : List Char) (m : Mark) :
    Except Error (String × Cursor) :=
  match cs with
  | [] => .error ⟨.unclosedQuote, some m⟩
  | c :: rest =>
    if isBreak c then scan double seen (gap.addBreak c) rest (m.nextLine c)
    else if isBlank c then scan double seen (gap.addBlank c) rest (m.next c)
    else if m.column == 0 && atMarker (c :: rest) then .error ⟨.markerInQuote, some m⟩
    else
      let seen := gap.folded ++ seen
      if !double && c == '\'' then
        match rest with
        | '\'' :: rest => scan double ('\'' :: seen) .none rest (m.past [c, c])
        | rest => .ok (String.ofList seen.reverse, ⟨rest, m.next c⟩)
      else if double && c == '"' then .ok (String.ofList seen.reverse, ⟨rest, m.next c⟩)
      else if double && c == '\\' then
        match rest with
        | [] => .error ⟨.unclosedQuote, some m⟩
        | e :: rest =>
          if isBreak e then scan double seen (.breaks none []) rest ((m.next c).nextLine e)
          else
            match escaped? e, codeLength? e with
            | some d, _ => scan double (d :: seen) .none rest (m.past [c, e])
            | none, some n =>
              match coded? n (rest.take n) with
              | some d =>
                scan double (d :: seen) .none (rest.drop n) (m.past (c :: e :: rest.take n))
              | none => .error ⟨.badCodePoint, some (m.past [c, e])⟩
            | none, none => .error ⟨.unknownEscape e, some m⟩
      else scan double (c :: seen) .none rest (m.next c)
  termination_by cs.length

end DottedConfig.Yaml.Quoted
