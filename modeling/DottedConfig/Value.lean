/-
Configuration values.

A value is a scalar, a sequence or a mapping with texts as keys.  A mapping is the
list of its entries in the order in which they were written; the reader never makes
one in which a key occurs twice, and `KeysDistinct` says so of a whole value.
-/
import DottedConfig.Binary64.Nearest

namespace DottedConfig

/-- A configuration value. -/
inductive Value where
  /-- The value of nothing. -/
  | null
  /-- A truth value. -/
  | bool (b : Bool)
  /-- A signed integer of 64 bits. -/
  | integer (i : Int64)
  /-- A floating-point number. -/
  | float (x : Binary64)
  /-- A text. -/
  | string (s : String)
  /-- A row of values. -/
  | sequence (items : List Value)
  /-- Values under keys, in the order in which they were written. -/
  | mapping (entries : List (String × Value))
  deriving Inhabited, Repr

namespace Value

/-! ### Views -/

/-- The name of a value's type. -/
def typeName : Value → String
  | null => "null"
  | bool _ => "boolean"
  | integer _ => "integer"
  | float _ => "float"
  | string _ => "string"
  | sequence _ => "sequence"
  | mapping _ => "mapping"

/-- Whether a value is null. -/
def isNull : Value → Bool
  | null => true
  | _ => false

/-- The truth value, if it is one. -/
def asBool? : Value → Option Bool
  | bool b => some b
  | _ => none

/-- The integer, if it is one. -/
def asInteger? : Value → Option Int64
  | integer i => some i
  | _ => none

/-- The number, if it is one; an integer becomes the nearest floating-point number. -/
def asFloat? : Value → Option Binary64
  | float x => some x
  | integer i => some (.ofInt i.toInt)
  | _ => none

/-- The text, if it is one. -/
def asString? : Value → Option String
  | string s => some s
  | _ => none

/-- The items, if it is a sequence. -/
def asSequence? : Value → Option (List Value)
  | sequence items => some items
  | _ => none

/-- The entries, if it is a mapping. -/
def asMapping? : Value → Option (List (String × Value))
  | mapping entries => some entries
  | _ => none

/-! ### Entries -/

/-- The value under a key. -/
def find? (key : String) : List (String × Value) → Option Value
  | [] => none
  | (k, v) :: rest => if k = key then some v else find? key rest

/-- Puts a value under a key: at the key's place if it has one, else at the end. -/
def put (key : String) (value : Value) : List (String × Value) → List (String × Value)
  | [] => [(key, value)]
  | (k, v) :: rest => if k = key then (k, value) :: rest else (k, v) :: put key value rest

/-- The mapping of some entries; a repeated key keeps its first place and takes the last value. -/
def ofEntries (entries : List (String × Value)) : Value :=
  mapping (entries.foldl (fun all e => put e.1 e.2 all) [])

mutual

/-- Whether no mapping anywhere in a value has a key twice. -/
def KeysDistinct : Value → Prop
  | sequence items => ItemsDistinct items
  | mapping entries => EntriesDistinct entries
  | _ => True

/-- Whether `KeysDistinct` holds of each of these values. -/
def ItemsDistinct : List Value → Prop
  | [] => True
  | v :: rest => KeysDistinct v ∧ ItemsDistinct rest

/-- Whether these keys are distinct, and `KeysDistinct` holds of the values under them. -/
def EntriesDistinct : List (String × Value) → Prop
  | [] => True
  | (k, v) :: rest => k ∉ rest.map (·.1) ∧ KeysDistinct v ∧ EntriesDistinct rest

end

/-! ### Equality

Floating-point numbers compare as IEEE 754 says, an integer never equals one, and
mappings compare without regard to the order of their entries. -/

mutual

/-- Whether two values are equal. -/
def equals : Value → Value → Bool
  | null, null => true
  | bool a, bool b => a == b
  | integer a, integer b => a == b
  | float a, float b => a.equals b
  | string a, string b => a == b
  | sequence as, sequence bs => itemsEqual as bs
  | mapping as, mapping bs => as.length == bs.length && entriesAmong as bs
  | _, _ => false

/-- Whether two rows of values are equal, item by item. -/
def itemsEqual : List Value → List Value → Bool
  | [], [] => true
  | a :: as, b :: bs => equals a b && itemsEqual as bs
  | _, _ => false

/-- Whether each entry has an equal one under its key among others. -/
def entriesAmong : List (String × Value) → List (String × Value) → Bool
  | [], _ => true
  | (k, v) :: rest, others =>
    (match find? k others with
      | some w => equals v w
      | none => false) && entriesAmong rest others

end

end Value

end DottedConfig
