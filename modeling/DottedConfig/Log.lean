/-
What a lookup reports while it works: records for a log, and the loads it asks for.
-/
import DottedConfig.Failure
import DottedConfig.Text.Quoted

namespace DottedConfig

/-- How important a record is. -/
inductive Log.Level where
  /-- Of interest to every user. -/
  | info
  /-- What was found where. -/
  | debug
  /-- Every step. -/
  | trace
  deriving DecidableEq, Repr

/-- A record of a log. -/
inductive Log.Record where
  /-- The cache is emptied of so many entries. -/
  | flushing (count : Nat)
  /-- The cache has an entry for a prefix. -/
  | hit (dotted : String)
  /-- The file of a prefix was loaded. -/
  | loaded (dotted : String) (file : String)
  /-- A prefix is a directory. -/
  | directory (dotted : String) (path : String)
  /-- The file of a prefix is read as it is. -/
  | readingRaw (dotted : String) (file : String)
  /-- Lookups begin at a root. -/
  | opened (root : String) (topLevel : Option String) (entries : Nat)
  /-- A default stands in for a failed lookup. -/
  | usingDefault (path : String) (kind : Failure.Kind)
  deriving DecidableEq, Repr

namespace Log

/-- The word for a level. -/
def Level.word : Level → String
  | .info => "INFO"
  | .debug => "DEBUG"
  | .trace => "TRACE"

/-- How often the user has to ask for more output to see records of a level. -/
def Level.verbosity : Level → Nat
  | .info => 1
  | .debug => 2
  | .trace => 3

/-- A kind of failure as a log shows it. -/
def showKind : Failure.Kind → String
  | .notFound => "NotFound"
  | .invalidPath => "InvalidPath"
  | .interpolation => "Interpolation"
  | .keyNotFound segment => s!"KeyNotFound \x7b segment: {Text.quoted segment} \x7d"
  | .typeMismatch => "TypeMismatch"
  | .parse => "Parse"
  | .io => "Io"

/-- A character of a record as it is printed.  Those that steer a terminal are spelled out. -/
def harmless (c : Char) : List Char :=
  let digits := Nat.toDigits 16 c.toNat
  if c == '\x07' || c == '\x08' || c == '\x0c' then ['\\', 'x', '0'] ++ digits
  else if c == '\x1b' || c == '\x7f' then ['\\', 'x'] ++ digits
  else if 0x80 ≤ c.toNat && c.toNat ≤ 0x9F then ['\\', 'u', '\x7b'] ++ digits ++ ['\x7d']
  else [c]

namespace Record

/-- The level of a record. -/
def level : Record → Level
  | usingDefault .. => .info
  | hit _ => .trace
  | _ => .debug

/-- The text of a record. -/
def text : Record → String
  | flushing count => s!"flushing {count} cached config nodes"
  | hit dotted => s!"node cache hit for '{dotted}'"
  | loaded dotted file => s!"loaded config '{dotted}' from {file}"
  | directory dotted path => s!"config '{dotted}' is directory {path}"
  | readingRaw dotted file => s!"reading raw config for '{dotted}' from {file}"
  | opened root topLevel entries =>
    s!"config root {root} (top level: {Text.quoted? topLevel}, {entries} namespace entries)"
  | usingDefault path kind => s!"using default for '{path}': {showKind kind}"

/-- The line of a record, which steers no terminal. -/
def line (record : Record) : String :=
  record.level.word ++ " " ++ String.ofList (record.text.toList.flatMap harmless)

end Record

end Log

/-- What a lookup brings along besides its answer. -/
inductive Note where
  /-- The loader is asked for the content of a file. -/
  | load (file : String)
  /-- A record for the log. -/
  | log (record : Log.Record)
  deriving DecidableEq, Repr

/-- The files that the loader was asked for. -/
def Note.loads (notes : List Note) : List String :=
  notes.filterMap fun
    | .load file => some file
    | .log _ => none

theorem Note.loads_append (notes notes' : List Note) :
    loads (notes ++ notes') = loads notes ++ loads notes' := List.filterMap_append

/-- The records for the log. -/
def Note.records (notes : List Note) : List Log.Record :=
  notes.filterMap fun
    | .load _ => none
    | .log record => some record

end DottedConfig
