/-
The types of YAML scalars.

A plain scalar is null, a truth value, an integer or a floating-point number if it is
spelled as one, and a text otherwise.  A quoted scalar is a text.  A standard tag
overrules the spelling, and a tag of the text's own is kept around the scalar.

Integers are decimal without leading zeros, or have the base `0x`, `0o` or `0b` after
the sign.  What a 64-bit word holds is an integer; what only a 128-bit word holds is
refused; beyond that a decimal is read as a floating-point number.
-/
import DottedConfig.Binary64.Numeral
import DottedConfig.Yaml.Document
import DottedConfig.Yaml.Problem
import DottedConfig.Yaml.Tag

namespace DottedConfig.Yaml

/-- How a scalar is written. -/
inductive Style where
  /-- Without quotes. -/
  | plain
  /-- In single or double quotes. -/
  | quoted
  /-- As a block after `|` or `>`. -/
  | block
  deriving DecidableEq, Repr

namespace Scalar

/-! ### Words -/

/-- The words for null. -/
def nullWords : List String := ["~", "null", "Null", "NULL"]

/-- The words for true. -/
def trueWords : List String := ["true", "True", "TRUE"]

/-- The words for false. -/
def falseWords : List String := ["false", "False", "FALSE"]

/-- Whether a text is null without being empty. -/
def isNullWord (s : String) : Bool := nullWords.contains s

/-- The truth value that a text is a word for. -/
def bool? (s : String) : Option Bool :=
  if trueWords.contains s then some true
  else if falseWords.contains s then some false
  else none

/-! ### Integers -/

/-- The value of a digit in bases up to sixteen. -/
def digit? (base : Nat) (c : Char) : Option Nat :=
  let value :=
    if c.isDigit then c.toNat - '0'.toNat
    else if 'a' ≤ c ∧ c ≤ 'f' then c.toNat - 'a'.toNat + 10
    else if 'A' ≤ c ∧ c ≤ 'F' then c.toNat - 'A'.toNat + 10
    else base
  if value < base then some value else none

/-- The value of a row of digits that is not empty. -/
def natural? (base : Nat) : List Char → Option Nat
  | [] => none
  | cs => cs.foldlM (fun n c => (digit? base c).map (base * n + ·)) 0

/-- Decimal digits with a zero in front of others. -/
def hasLeadingZero (cs : List Char) : Bool :=
  match (Binary64.takeSign cs).2 with
  | '0' :: c :: rest => (c :: rest).all Char.isDigit
  | _ => false

/-- The integer that a text spells, of whatever size. -/
def integer? (cs : List Char) : Option Int :=
  let (negative, rest) := Binary64.takeSign cs
  let magnitude := match rest with
    | '0' :: 'x' :: digits => natural? 16 digits
    | '0' :: 'o' :: digits => natural? 8 digits
    | '0' :: 'b' :: digits => natural? 2 digits
    | digits => if hasLeadingZero digits then none else natural? 10 digits
  magnitude.map fun n => if negative then -(n : Int) else n

/-- Whether a 64-bit word, signed or not, holds an integer. -/
def fitsWord (i : Int) : Bool := -Int.pow 2 63 ≤ i && i < Int.pow 2 64

/-- Whether a 128-bit word, signed or not, holds an integer. -/
def fitsDoubleWord (i : Int) : Bool := -Int.pow 2 127 ≤ i && i < Int.pow 2 128

/-- The integer that a text spells; none also for those beyond 128 bits. -/
def readInteger (cs : List Char) : Except Problem (Option Document) :=
  match integer? cs with
  | none => .ok none
  | some i =>
    if fitsWord i then .ok (some (.number (.integer i)))
    else if fitsDoubleWord i then .error .integerTooLarge
    else .ok none

/-! ### Floating-point numbers -/

/-- The floating-point number that a text spells. -/
def float? (cs : List Char) : Option Binary64 :=
  let s := String.ofList cs
  let unsigned := match cs with
    | '+' :: rest => String.ofList rest
    | _ => s
  if [".inf", ".Inf", ".INF"].contains unsigned then some (.infinity false)
  else if ["-.inf", "-.Inf", "-.INF"].contains s then some (.infinity true)
  else if [".nan", ".NaN", ".NAN"].contains s then some .nan
  else (Binary64.ofNumeral? cs).filter Binary64.isFinite

/-! ### Scalars -/

/-- The document of a plain scalar. -/
def ofPlain (s : String) : Except Problem Document := do
  if s.isEmpty || isNullWord s then return .null
  if let some b := bool? s then return .bool b
  let cs := s.toList
  if let some document ← readInteger cs then return document
  if !hasLeadingZero cs then
    if let some x := float? cs then return .number (.float x)
  return .string s

/-- The document of a scalar under a tag that is not of the text's own making. -/
def ofTagged (tag : Tag) (s : String) : Except Problem Document :=
  if tag = .standard "bool" then
    match bool? s with
    | some b => .ok (.bool b)
    | none => .error (.wrongForTag "a boolean")
  else if tag = .standard "int" then do
    match ← readInteger s.toList with
    | some document => .ok document
    | none => .error (.wrongForTag "an integer")
  else if tag = .standard "float" then
    match float? s.toList with
    | some x => .ok (.number (.float x))
    | none => .error (.wrongForTag "a float")
  else if tag = .standard "null" then
    if isNullWord s then .ok .null else .error (.wrongForTag "null")
  else .ok (.string s)

/-- The document of a scalar. -/
def read (tag : Option Tag) (style : Style) (s : String) : Except Problem Document := do
  let bySpelling := if style = .plain then ofPlain s else .ok (.string s)
  match tag with
  | none => bySpelling
  | some tag =>
    if !tag.isOwn then ofTagged tag s
    else
      match tag.ownName? with
      | some name => return .tagged name (← bySpelling)
      | none => bySpelling

end Scalar

end DottedConfig.Yaml
