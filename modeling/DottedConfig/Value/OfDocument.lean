/-
From YAML documents to values.

The value has the shape of the document: the same items and entries in the same
order, tags left out.  Placeholders are replaced in every text, keys included.  A key
that is a number, a truth value or null becomes its text; a key that is a collection
is refused, and so is one that comes out equal to an earlier key of its mapping, so no
entry is ever lost.  The first fault in reading order is the one that is reported, and
for an entry the order is: its key, the comparison with the keys before, its value.

The trail of a node is the row of positions and keys that lead to it from the root.
-/
import DottedConfig.Template
import DottedConfig.Text.Blank
import DottedConfig.Value
import DottedConfig.Yaml.Read

namespace DottedConfig

/-- The failure with its place within the file, if that is not the root. -/
def Failure.within (f : Failure) (trail : List String) : Failure :=
  if trail.isEmpty then f
  else { f with cause := some (.within (f.cause.getD (.worded "")) trail) }

namespace Value

/-- The value of a number: an integer if it is one and a 64-bit signed word holds it. -/
def ofNumber : Yaml.Number → Value
  | .integer i =>
    if -Int.pow 2 63 ≤ i ∧ i < Int.pow 2 63 then integer (.ofInt i) else float (.ofInt i)
  | .float x => float x

/-- A text with its placeholders replaced, for the node at this trail. -/
def substituteAt (ns : Namespace) (trail : List String) (s : String) : Except Failure String :=
  match Template.substitute s ns with
  | .ok text => .ok text
  | .error f => .error (f.within trail)

/-- The text of a key in the mapping at this trail. -/
def keyText (ns : Namespace) (trail : List String) : Yaml.Document → Except Failure String
  | .string s => substituteAt ns trail s
  | .number n => .ok n.text
  | .bool b => .ok (toString b)
  | .null => .ok "null"
  | .tagged _ inner => keyText ns trail inner
  | .sequence _ | .mapping _ => .error (.parse (.compoundKey trail))

mutual

/-- The value of a document at this trail. -/
def ofDocument (ns : Namespace) (trail : List String) : Yaml.Document → Except Failure Value
  | .null => .ok null
  | .bool b => .ok (bool b)
  | .number n => .ok (ofNumber n)
  | .string s => do return string (← substituteAt ns trail s)
  | .sequence items => do return sequence (← ofItems ns trail 0 items)
  | .mapping entries => do return mapping (← ofPairs ns trail [] entries)
  | .tagged _ inner => ofDocument ns trail inner

/-- The values of the items from a position on, in the sequence at this trail. -/
def ofItems (ns : Namespace) (trail : List String) (position : Nat) :
    List Yaml.Document → Except Failure (List Value)
  | [] => .ok []
  | item :: rest => do
    let value ← ofDocument ns (trail ++ [toString position]) item
    return value :: (← ofItems ns trail (position + 1) rest)

/-- The entries that follow those with the keys `seen`, in the mapping at this trail. -/
def ofPairs (ns : Namespace) (trail : List String) (seen : List String) :
    List (Yaml.Document × Yaml.Document) → Except Failure (List (String × Value))
  | [] => .ok []
  | (k, v) :: rest => do
    let key ← keyText ns trail k
    if key ∈ seen then throw (.parse (.repeatedKey (trail ++ [key])))
    let value ← ofDocument ns (trail ++ [key]) v
    return (key, value) :: (← ofPairs ns trail (key :: seen) rest)

end

/-- The failure of a text that is not YAML. -/
def badYaml (fault : Yaml.Error) : Failure :=
  let failure := Failure.parse (.badYaml fault.problem)
  match fault.mark with
  | some mark => failure.withLocation ⟨"<input>", some (mark.line + 1), some (mark.column + 1)⟩
  | none => failure

/-- The value of a YAML text.  A text of blanks alone is null, whatever the blanks. -/
def ofText (text : String) (ns : Namespace) : Except Failure Value :=
  if Text.allBlank text then .ok null
  else
    match Yaml.Document.read text with
    | .ok document => ofDocument ns [] document
    | .error fault => .error (badYaml fault)

end Value

end DottedConfig
