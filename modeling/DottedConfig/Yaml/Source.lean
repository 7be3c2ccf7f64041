/-
YAML texts as they are read: character by character, with the place of each.

Before anything else the four ways to end a line are made one, and a character that
YAML does not allow is refused wherever it stands.  The two separators of Unicode,
U+2028 and U+2029, end a line too but stay what they are.
-/
import DottedConfig.Yaml.Problem

namespace DottedConfig.Yaml

/-! ### Classes of characters -/

/-- The byte order mark. -/
def byteOrderMark : Char := '\ufeff'

/-- Whether a character ends a line, once line ends are made one. -/
def isBreak (c : Char) : Bool := c == '\n' || c == '\u2028' || c == '\u2029'

/-- Whether a character separates within a line. -/
def isBlank (c : Char) : Bool := c == ' ' || c == '\t'

/-- Whether a character can stand in the name of an anchor, a handle or a directive. -/
def isWordChar (c : Char) : Bool := c.isAlphanum || c == '_' || c == '-'

/-- Whether nothing follows, or a blank or line end does. -/
def endsWord : List Char → Bool
  | [] => true
  | c :: _ => isBlank c || isBreak c

/-- Whether a marker between documents stands here, given that a line begins here. -/
def atMarker : List Char → Bool
  | '-' :: '-' :: '-' :: rest => endsWord rest
  | '.' :: '.' :: '.' :: rest => endsWord rest
  | _ => false

/-- Whether a YAML text may hold a character. -/
def isAllowed (c : Char) : Bool :=
  let n := c.toNat
  n == 9 || n == 10 || n == 13 || (0x20 ≤ n && n ≤ 0x7E) || n == 0x85 ||
    (0xA0 ≤ n && n ≤ 0xD7FF) || (0xE000 ≤ n && n ≤ 0xFFFD) || 0x10000 ≤ n

/-! ### Marks -/

namespace Mark

/-- The place at which a text begins. -/
def start : Mark := ⟨0, 0, 0⟩

/-- The place after a character that ends no line. -/
def next (m : Mark) (c : Char) : Mark := ⟨m.offset + c.utf8Size, m.line, m.column + 1⟩

/-- The place after characters none of which ends a line. -/
def past (m : Mark) (cs : List Char) : Mark := cs.foldl next m

/-- The place after a character that ends a line. -/
def nextLine (m : Mark) (c : Char) : Mark := ⟨m.offset + c.utf8Size, m.line + 1, 0⟩

end Mark

/-! ### Cursors -/

/-- What is left of a text, and where it begins. -/
structure Cursor where
  /-- The characters that are left. -/
  rest : List Char
  /-- The place of the first of them. -/
  mark : Mark

/-- Makes every line end but the separators of Unicode one line feed. -/
def unifyBreaks : List Char → List Char
  | [] => []
  | '\r' :: '\n' :: rest => '\n' :: unifyBreaks rest
  | c :: rest => (if c = '\r' || c = '\u0085' then '\n' else c) :: unifyBreaks rest

/-- The beginning of a text with one kind of line end.  A text with a character that is not
allowed is refused before any of it is read. -/
def Cursor.ofText (text : String) : Except Error Cursor :=
  let cs := unifyBreaks text.toList
  match cs.find? (!isAllowed ·) with
  | some c => .error ⟨.forbiddenCharacter c.toNat, some .start⟩
  | none => .ok ⟨cs, .start⟩

/-- What follows a line end, if one stands here. -/
def Cursor.pastBreak (cursor : Cursor) : Cursor :=
  match cursor.rest with
  | [] => cursor
  | c :: rest => ⟨rest, cursor.mark.nextLine c⟩

theorem Cursor.rest_pastBreak (cursor : Cursor) : cursor.pastBreak.rest = cursor.rest.tail := by
  unfold pastBreak
  split <;> simp [*]

/-! ### Reading within a line -/

/-- A reader: it takes characters off the front of a text, or finds a fault. -/
abbrev Reading := StateT Cursor (Except Error)

namespace Reading

/-- Finds a fault here. -/
def fault {α : Type} (problem : Problem) : Reading α := do
  throw ⟨problem, some (← get).mark⟩

/-- The characters that are left. -/
def rest : Reading (List Char) := return (← get).rest

/-- The next character. -/
def peek? : Reading (Option Char) := return (← get).rest.head?

/-- Takes so many characters, none of which ends a line. -/
def skip (n : Nat) : Reading Unit :=
  modify fun cursor => ⟨cursor.rest.drop n, cursor.mark.past (cursor.rest.take n)⟩

/-- Takes the longest row of characters of a class, which no line end belongs to. -/
def takeWhile (p : Char → Bool) : Reading (List Char) := do
  let taken := (← rest).takeWhile p
  skip taken.length
  return taken

/-- Takes the blanks, the comment and the line end at the end of a line. -/
def finishLine (problem : Problem) : Reading Unit := do
  let _ ← takeWhile isBlank
  if (← peek?) = some '#' then
    let _ ← takeWhile fun c => !isBreak c
  match ← rest with
  | [] => return
  | c :: cs =>
    if isBreak c then modify fun cursor => ⟨cs, cursor.mark.nextLine c⟩
    else fault problem

end Reading

end DottedConfig.Yaml
