/-
Bindings: one entry of a namespace, written `name=value`.

The text is cut at its first `=`.  Blanks around the name do not count; the value is
everything after the `=`, as it is.
-/
import DottedConfig.SortedMap
import DottedConfig.Template.Name
import DottedConfig.Text.Blank

namespace DottedConfig

/-- A name and what it stands for. -/
structure Binding where
  /-- The name. -/
  name : String
  /-- The text that the name stands for. -/
  value : String
  deriving DecidableEq, Repr

/-- Why a text is not a binding. -/
inductive Binding.Fault where
  /-- The text has no `=`. -/
  | missingEquals (text : String)
  /-- What stands before the `=` is not a name. -/
  | invalidName (name : String)
  deriving DecidableEq, Repr

namespace Binding

/-- The wording of a fault. -/
def Fault.message : Fault → String
  | .missingEquals text => s!"expected name=value, got '{text}'"
  | .invalidName name => s!"'{name}' is not a valid placeholder name"

/-- Reads a binding. -/
def parse (text : String) : Except Fault Binding :=
  match text.toList.dropWhile (· != '=') with
  | [] => .error (.missingEquals text)
  | _ :: value =>
    let name := Text.trimChars (text.toList.takeWhile (· != '='))
    if spellsName name then .ok ⟨String.ofList name, String.ofList value⟩
    else .error (.invalidName (String.ofList name))

/-- A binding as it is written. -/
def text (binding : Binding) : String := binding.name ++ "=" ++ binding.value

example : (parse " a =b=c").toOption = some ⟨"a", "b=c"⟩ := by decide +kernel
example : (parse "1=b").toOption = none := by decide +kernel

end Binding

/-- The namespace of some bindings; the last one of a name wins. -/
def SortedMap.ofBindings (bindings : List Binding) : Namespace :=
  .ofList (bindings.map fun b => (b.name, b.value))

end DottedConfig
