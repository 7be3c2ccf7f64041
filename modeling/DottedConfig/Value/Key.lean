/-
Looking up keys in values, one after the other.

A key is looked up in a mapping only.  In anything else the failure says that the
path goes deeper than the value.
-/
import DottedConfig.Failure
import DottedConfig.Value

namespace DottedConfig.Value

/-- The value under a key; `path` is the dotted path being looked up, for the failure. -/
def atKey (value : Value) (key path : String) : Except Failure Value :=
  match value with
  | mapping entries =>
    match find? key entries with
    | some v => .ok v
    | none => .error (.keyNotFound key path)
  | other =>
    .error ((Failure.keyNotFound key path).withHelp
      s!"'{key}' cannot be looked up in a {other.typeName}; the path goes deeper than the value")

/-- The value under a row of keys. -/
def atKeys (value : Value) (keys : List String) (path : String) : Except Failure Value :=
  match keys with
  | [] => .ok value
  | key :: rest => do (← value.atKey key path).atKeys rest path

end DottedConfig.Value
