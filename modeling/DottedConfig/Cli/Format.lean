/-
The formats that the command prints values in.
-/
import DottedConfig.Value.Json
import DottedConfig.Value.Plain
import DottedConfig.Value.Yaml

namespace DottedConfig.Cli

/-- A format. -/
inductive Format where
  /-- Plain text; a collection as YAML. -/
  | text
  /-- JSON with indentation. -/
  | json
  /-- YAML. -/
  | yaml
  deriving DecidableEq, Repr

namespace Format

/-- The format of a name. -/
def ofName? : String → Option Format
  | "text" => some text
  | "json" => some json
  | "yaml" => some yaml
  | _ => none

/-- A value as printed, its last line ended. -/
def render (format : Format) (value : Value) : String :=
  match format, value with
  | json, _ => value.jsonPretty ++ "\n"
  | yaml, _ | text, .sequence _ | text, .mapping _ => value.yaml
  | text, _ => value.plain ++ "\n"

end Format

end DottedConfig.Cli
