/-
Failed lookups: what kind of failure it is, what caused it and where.

A failure carries its cause as data; `Cause.message` words it.  The dotted path that
was looked up and the file at fault are put in as the failure travels up, and the
help can be replaced by one that knows more.  `Failure.message` lays all of it out,
one line for each part that is there.
-/
import DottedConfig.Disk
import DottedConfig.Yaml.Problem

namespace DottedConfig

/-! ### Causes -/

/-- Why a lookup failed. -/
inductive Cause where
  /-- A cause worded by whoever raised the failure. -/
  | worded (text : String)
  /-- No file and no directory stands at this place. -/
  | nothingAt (place : String)
  /-- Every prefix of the path, given dotted, is a directory. -/
  | onlyDirectories (dotted : String)
  /-- The cache has no file for a dotted prefix. -/
  | notLoaded (dotted : String)
  /-- The cache has nothing for a dotted prefix. -/
  | notCached (dotted : String)
  /-- The path has no text. -/
  | emptyPath
  /-- Two dots of the path stand side by side, or one stands at its end. -/
  | emptySegment
  /-- A segment whose placeholders leave nothing of it. -/
  | vanishingSegment (written : String)
  /-- A segment whose placeholders bring a dot into it. -/
  | dottedSegment (written : String) (text : String)
  /-- A `$` that begins no placeholder. -/
  | badPlaceholder (text : String) (line : Nat) (column : Nat)
  /-- A placeholder that the namespace does not have. -/
  | missingEntry (name : String)
  /-- What stands where a file should. -/
  | notAFile (file : String)
  /-- A file that does not give a text. -/
  | unreadable (refusal : Disk.Refusal)
  /-- A fault of the YAML text. -/
  | badYaml (problem : Yaml.Problem)
  /-- A key that equals an earlier one of its mapping. -/
  | repeatedKey (trail : List String)
  /-- A key that is a collection, in the mapping at this trail. -/
  | compoundKey (trail : List String)
  /-- A cause met at this place within a file. -/
  | within (cause : Cause) (trail : List String)
  /-- A value of the type with this name, where another was asked for. -/
  | wrongType (got : String)
  deriving DecidableEq, Repr

/-- A trail as shown: its steps joined by dots, or a name for the whole file. -/
def showTrail : List String → String
  | [] => "<root>"
  | trail => ".".intercalate trail

/-- The wording of a cause. -/
def Cause.message : Cause → String
  | .worded text => text
  | .nothingAt place => s!"'{place}' is neither a directory nor a .yaml file"
  | .onlyDirectories dotted =>
    s!"'{dotted}' names a directory; the path is not contained in any configuration file"
  | .notLoaded dotted => s!"'{dotted}' is not a loaded file"
  | .notCached dotted => s!"'{dotted}' is not cached"
  | .emptyPath => "The path is empty"
  | .emptySegment => "The path has an empty segment"
  | .vanishingSegment written => s!"Segment '{written}' substitutes to an empty string"
  | .dottedSegment written text =>
    s!"Segment '{written}' substitutes to '{text}', which contains '.'"
  | .badPlaceholder text line column =>
    s!"Invalid placeholder in '{text}' at line {line}, column {column}"
  | .missingEntry name => s!"No namespace entry for '{name}'"
  | .notAFile file => s!"'{file}' is not a regular file"
  | .unreadable refusal => refusal.message
  | .badYaml problem => problem.message
  | .repeatedKey trail => s!"Duplicate mapping key after substitution (at '{showTrail trail}')"
  | .compoundKey trail => s!"Mapping keys must be scalars (under '{showTrail trail}')"
  | .within cause trail => s!"{cause.message} (at '{showTrail trail}')"
  | .wrongType got => s!"Got: {got}"

/-! ### Failures -/

/-- The kinds of failure. -/
inductive Failure.Kind where
  /-- No prefix of the path is a file. -/
  | notFound
  /-- The path is malformed, or something other than a file stands in its way. -/
  | invalidPath
  /-- A placeholder cannot be filled in. -/
  | interpolation
  /-- The file that owns the path has nothing under this segment. -/
  | keyNotFound (segment : String)
  /-- The value is of another type than asked for. -/
  | typeMismatch
  /-- The file is not the YAML of a value. -/
  | parse
  /-- The file cannot be read. -/
  | io
  deriving DecidableEq, Repr

/-- A file, and a place in it if one is known. -/
structure Location where
  /-- The path of the file. -/
  file : String
  /-- The line, counted from one. -/
  line : Option Nat
  /-- The column, counted from one. -/
  column : Option Nat
  deriving DecidableEq, Repr

/-- A file as a whole. -/
def Location.ofFile (file : String) : Location := ⟨file, none, none⟩

/-- A failed lookup. -/
structure Failure where
  /-- The kind of failure. -/
  kind : Failure.Kind
  /-- The dotted path, as it was asked for. -/
  path : Option String
  /-- The file at fault. -/
  location : Option Location
  /-- What can be done about it. -/
  help : Option String
  /-- What was wrong. -/
  cause : Option Cause
  deriving DecidableEq, Repr

namespace Failure

/-- No file for a path. -/
def notFound (cause : Cause) : Failure :=
  { kind := .notFound, path := none, location := none, cause := some cause
    help := some "Check that a matching directory or .yaml file exists under the config root" }

/-- Something that is not a file stands where a file should. -/
def notAFile (file : String) : Failure :=
  { kind := .invalidPath, path := none, location := some (.ofFile file)
    cause := some (.notAFile file), help := some "Replace it with a regular YAML file" }

/-- A path that cannot be cut into segments. -/
def malformedPath (path : String) (cause : Cause) : Failure :=
  { kind := .invalidPath, path := some path, location := none, cause := some cause
    help := some "Dotted paths look like 'actor.section.key'" }

/-- A placeholder that the namespace does not have. -/
def missingEntry (name : String) : Failure :=
  { kind := .interpolation, path := none, location := none, cause := some (.missingEntry name)
    help := some s!"Provide '{name}' in the namespace, or write '$$' for a literal '$'" }

/-- A `$` that begins no placeholder. -/
def badPlaceholder (cause : Cause) : Failure :=
  { kind := .interpolation, path := none, location := none, cause := some cause
    help := some "Placeholders look like $\x7bname\x7d or $name; write '$$' for a literal '$'" }

/-- A file that has nothing under a segment of the path. -/
def keyNotFound (segment path : String) : Failure :=
  { kind := .keyNotFound segment, path := some path, location := none, cause := none
    help := some s!"Check that '{segment}' exists in the file that owns this path" }

/-- A value of another type than asked for. -/
def typeMismatch (path expected got : String) : Failure :=
  { kind := .typeMismatch, path := some path, location := none, cause := some (.wrongType got)
    help := some s!"Ensure the value is a {expected}" }

/-- A file that is not the YAML of a value. -/
def parse (cause : Cause) : Failure :=
  { kind := .parse, path := none, location := none, cause := some cause, help := none }

/-- A file that cannot be read. -/
def io (file : String) (cause : Cause) : Failure :=
  { kind := .io, path := none, location := some (.ofFile file), cause := some cause, help := none }

/-- The failure as one of looking up this path. -/
def withPath (f : Failure) (path : String) : Failure := { f with path := some path }

/-- The failure as one of looking up this path, unless it already names one. -/
def orPath (f : Failure) (path : String) : Failure :=
  if f.path.isSome then f else f.withPath path

theorem cause_orPath (f : Failure) (path : String) : (f.orPath path).cause = f.cause := by
  rw [orPath]
  split <;> rfl

/-- A failure that names no path is given the one that was asked for. -/
theorem orPath_eq_withPath {f : Failure} (h : f.path = none) (path : String) :
    f.orPath path = f.withPath path := by
  rw [orPath, h]
  rfl

/-- The failure at this location. -/
def withLocation (f : Failure) (location : Location) : Failure :=
  { f with location := some location }

/-- The failure with another help. -/
def withHelp (f : Failure) (help : String) : Failure := { f with help := some help }

/-- The failure as one of this file; a line and a column that are known are kept. -/
def inFile (f : Failure) (file : String) : Failure :=
  f.withLocation (match f.location with
    | some location => { location with file := file }
    | none => .ofFile file)

/-! ### Wording -/

/-- The line that a failure of this kind begins with. -/
def Kind.heading : Kind → String
  | .notFound => "Configuration not found"
  | .invalidPath => "Invalid path"
  | .interpolation => "Interpolation failed"
  | .keyNotFound segment => s!"Key not found: {segment}"
  | .typeMismatch => "Type mismatch"
  | .parse => "Parse error"
  | .io => "I/O error"

/-- A location as shown: a line only if one is known, and a column only after a line. -/
def showLocation (location : Location) : String :=
  location.file ++
    match location.line, location.column with
    | none, _ => ""
    | some line, none => s!":{line}"
    | some line, some column => s!":{line}:{column}"

/-- The whole failure, each part that is there on lines of its own. -/
def message (f : Failure) : String :=
  f.kind.heading
    ++ (f.path.elim "" fun path => "\n  Path: " ++ path)
    ++ (f.location.elim "" fun location => "\n  File: " ++ showLocation location)
    ++ (f.cause.elim "" fun cause => "\n  " ++ cause.message)
    ++ (f.help.elim "" fun help => "\n  Help: " ++ help)

end Failure

end DottedConfig
