/-
Block scalars: the lines after `|` or `>`.

The first line that is not empty sets the indentation, unless the header gives it, and
the scalar ends where a line stands further left.  After `|` the lines are kept; after
`>` two neighbouring lines are joined unless one of them begins with a blank.  The
header also says what becomes of the line ends after the last line.
-/
import DottedConfig.Yaml.Source

namespace DottedConfig.Yaml.Block

/-- What becomes of the line ends after the last line. -/
inductive Chomping where
  /-- All of them are dropped. -/
  | strip
  /-- One is kept. -/
  | clip
  /-- All of them are kept. -/
  | keep
  deriving DecidableEq, Repr

/-! ### Headers -/

/-- What follows `|` or `>` on its line. -/
structure Header where
  /-- What becomes of the last line ends. -/
  chomping : Chomping
  /-- By how much the lines are indented, if the header says so. -/
  indent : Option Nat

/-- Reads the sign that says what becomes of the last line ends. -/
def chomping? : Reading (Option Chomping) := do
  match ← Reading.peek? with
  | some '+' => Reading.skip 1; return some .keep
  | some '-' => Reading.skip 1; return some .strip
  | _ => return none

/-- Reads the digit that gives the indentation, which is not zero. -/
def indent? : Reading (Option Nat) := do
  match ← Reading.peek? with
  | some c =>
    if c = '0' then Reading.fault .badBlockHeader
    else if c.isDigit then Reading.skip 1; return some (c.toNat - '0'.toNat)
    else return none
  | none => return none

/-- Reads a header and the rest of its line; sign and digit stand in either order. -/
def header : Reading Header := do
  let early ← chomping?
  let indent ← indent?
  let late ← if early.isNone && indent.isSome then chomping? else pure none
  Reading.finishLine .badBlockHeader
  return ⟨(early <|> late).getD .clip, indent⟩

/-! ### Lines -/

/-- What stands between two lines of text: empty lines, and the indentation of the next. -/
structure Interval where
  /-- The line ends, the last one first. -/
  breaks : List Char
  /-- The rightmost column at which a line was seen to begin. -/
  widest : Nat
  /-- What follows. -/
  cursor : Cursor

/--
Takes empty lines and indentation.

Blanks are indentation up to column `limit`, or all of them if the indentation is not
known yet.
-/
def skipEmpty (limit : Option Nat) (breaks : List Char) (widest : Nat) :
    List Char → Mark → Except Error Interval
  | [], m => .ok ⟨breaks, max widest m.column, ⟨[], m⟩⟩
  | c :: rest, m =>
    let indenting := limit.all (m.column < ·)
    if c == ' ' && indenting then skipEmpty limit breaks widest rest (m.next c)
    else if c == '\t' && indenting then .error ⟨.tabIndent, some m⟩
    else if isBreak c then skipEmpty limit (c :: breaks) (max widest m.column) rest (m.nextLine c)
    else .ok ⟨breaks, max widest m.column, ⟨c :: rest, m⟩⟩

/-- Empty lines are taken off the front. -/
theorem length_skipEmpty_le {limit : Option Nat} {breaks : List Char} {widest : Nat}
    {cs : List Char} {m : Mark} {interval : Interval}
    (h : skipEmpty limit breaks widest cs m = .ok interval) :
    interval.cursor.rest.length ≤ cs.length := by
  fun_induction skipEmpty limit breaks widest cs m with
  | case1 => cases h; exact Nat.le_refl _
  | case2 _ _ _ _ _ _ _ ih => exact Nat.le_succ_of_le (ih h)
  | case3 => cases h
  | case4 _ _ _ _ _ _ _ _ _ ih => exact Nat.le_succ_of_le (ih h)
  | case5 => cases h; exact Nat.le_refl _

/-- The lines of a block scalar so far. -/
structure Lines where
  /-- The text without the end of its last line, the last character first. -/
  text : List Char
  /-- The end of the last line. -/
  ending : Option Char
  /-- Whether the last line begins with a blank. -/
  blank : Bool
  /-- The ends of the empty lines after it, the last one first. -/
  breaks : List Char

/-- The text so far and what stands between it and a next line, the last character first. -/
def Lines.joined (lines : Lines) (folds blank : Bool) : List Char :=
  if folds && lines.ending == some '\n' && !lines.blank && !blank then
    (if lines.breaks.isEmpty then [' '] else lines.breaks) ++ lines.text
  else lines.breaks ++ (lines.ending.toList ++ lines.text)

/-- Takes lines of text as long as they begin at column `indent`. -/
def scanLines (folds : Bool) (indent : Nat) (lines : Lines) (cs : List Char) (m : Mark) :
    Except Error (Lines × Cursor) :=
  match cs with
  | [] => .ok (lines, ⟨[], m⟩)
  | c :: rest =>
    if m.column != indent then .ok (lines, ⟨c :: rest, m⟩)
    else
      let line := rest.takeWhile fun d => !isBreak d
      let after : Cursor := ⟨rest.drop line.length, m.past (c :: line)⟩
      match _h : skipEmpty (some indent) [] 0 after.pastBreak.rest after.pastBreak.mark with
      | .error e => .error e
      | .ok interval =>
        let lines' : Lines :=
          { text := line.reverse ++ c :: lines.joined folds (isBlank c)
            ending := after.rest.head?
            blank := isBlank c
            breaks := interval.breaks }
        scanLines folds indent lines' interval.cursor.rest interval.cursor.mark
  termination_by cs.length
  decreasing_by
    have taken := length_skipEmpty_le _h
    rw [Cursor.rest_pastBreak, List.length_tail, List.length_drop] at taken
    rw [List.length_cons]
    omega

/-- The text of the lines with what is kept of the line ends after them. -/
def Lines.chomped (lines : Lines) (chomping : Chomping) : String :=
  let kept := match chomping with
    | .strip => []
    | .clip => lines.ending.toList
    | .keep => lines.breaks ++ lines.ending.toList
  String.ofList (kept ++ lines.text).reverse

/-- Reads a block scalar after its indicator; `parent` is the column of the block around it. -/
def scan (folds : Bool) (parent : Option Nat) : Reading String := do
  let header ← header
  let start ← get
  let limit := header.indent.map (parent.getD 0 + ·)
  let interval ← skipEmpty limit [] 0 start.rest start.mark
  let indent := limit.getD (max interval.widest (max 1 (parent.elim 0 (· + 1))))
  let (lines, cursor) ← scanLines folds indent ⟨[], none, false, interval.breaks⟩
    interval.cursor.rest interval.cursor.mark
  set cursor
  return lines.chomped header.chomping

end DottedConfig.Yaml.Block
