/-
YAML documents: trees of typed scalars, sequences, mappings and tags.

A document is what a YAML text says once its scalars have their types and its
aliases are replaced by what they stand for.  Keys of mappings can be any documents.
`Document.same` says which keys count as one: numbers of one type and value (all
NaNs are one), the same text, and collections of the same parts, where the order of
a mapping's entries does not count.
-/
import DottedConfig.Binary64.Layout

namespace DottedConfig.Yaml

/-! ### Numbers -/

/-- A number of a document. -/
inductive Number where
  /-- An integer. -/
  | integer (i : Int)
  /-- A floating-point number. -/
  | float (x : Binary64)
  deriving DecidableEq, Repr

/-- Numbers are positional from `1e-5` up to below `1e16`; whole ones keep a `.0`. -/
def numbers : Binary64.Layout :=
  { positional := fun power => -5 ≤ power && power < 16
    wholeTail := ".0"
    plus := ""
    nan := ".nan"
    infinite := fun negative => if negative then "-.inf" else ".inf" }

/-- The text of a number. -/
def Number.text : Number → String
  | .integer i => toString i
  | .float x => numbers.text x

/-- Whether two numbers are one key. -/
def Number.same : Number → Number → Bool
  | .integer a, .integer b => a == b
  | .float a, .float b => (a.isNaN && b.isNaN) || a.equals b
  | _, _ => false

/-! ### Documents -/

/-- A document. -/
inductive Document where
  /-- The null scalar. -/
  | null
  /-- A truth value. -/
  | bool (b : Bool)
  /-- A number. -/
  | number (n : Number)
  /-- A text. -/
  | string (s : String)
  /-- A row of documents. -/
  | sequence (items : List Document)
  /-- Documents under documents, in the order of the text. -/
  | mapping (entries : List (Document × Document))
  /-- A document under a tag of the text's own. -/
  | tagged (tag : String) (inner : Document)
  deriving Inhabited, Repr

namespace Document

/-- A tag as it counts in comparisons: without a `!` in front of something else. -/
def bareTag (tag : String) : List Char :=
  match tag.toList with
  | '!' :: c :: rest => c :: rest
  | cs => cs

mutual

/-- Whether two documents are one key. -/
def same : Document → Document → Bool
  | null, null => true
  | bool a, bool b => a == b
  | number a, number b => a.same b
  | string a, string b => a == b
  | sequence as, sequence bs => sameItems as bs
  | mapping as, mapping bs => as.length == bs.length && sameAmong as bs
  | tagged t a, tagged u b => bareTag t == bareTag u && same a b
  | _, _ => false

/-- Whether two rows of documents are the same, item by item. -/
def sameItems : List Document → List Document → Bool
  | [], [] => true
  | a :: as, b :: bs => same a b && sameItems as bs
  | _, _ => false

/-- Whether each entry has the same one among others. -/
def sameAmong : List (Document × Document) → List (Document × Document) → Bool
  | [], _ => true
  | (k, v) :: rest, others =>
    others.any (fun other => same k other.1 && same v other.2) && sameAmong rest others

end

end Document

end DottedConfig.Yaml
