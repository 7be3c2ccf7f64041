/-
Loaders: how the content of a file is made.

A loader answers for a disk, a path and the namespace that fills the placeholders.
The usual one reads the file as YAML; every failure of it names the file.
-/
import DottedConfig.Value.OfDocument

namespace DottedConfig

/-- Makes the content of the file at a path. -/
abbrev Loader := Disk → String → Namespace → Except Failure Value

namespace Loader

/-- Reads the file as YAML and fills its placeholders. -/
def yaml : Loader := fun disk path ns =>
  match disk path with
  | some (.text s) =>
    match Value.ofText s ns with
    | .ok value => .ok value
    | .error f => .error (f.inFile path)
  | some (.unreadable refusal) => .error (.io path (.unreadable refusal))
  | some .directory | none => .error (.notAFile path)

end Loader

end DottedConfig
