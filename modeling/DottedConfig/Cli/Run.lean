/-
Runs of the command: what it prints, and the code it ends with.

A run is a function of its arguments, of the root that the environment names and of
the disk.  It ends with code 0 if it printed an answer, with 1 if there is none, and
with 2 if the request made no sense.  What goes to the error stream is kept as data:
the records of the log that the user asked to see, and why there is no answer.

How much of the log that is, the arguments say.  An environment can have a filter for
the log besides, which would go before them; it is taken as not set.
-/
import DottedConfig.Cli.Arguments
import DottedConfig.Cli.Format
import DottedConfig.Tree

namespace DottedConfig.Cli

/-- What a run prints besides the answer. -/
inductive Message where
  /-- A record of the log. -/
  | record (record : Log.Record)
  /-- Why there is no answer. -/
  | failure (failure : Failure)
  /-- There is no format of this name. -/
  | unsupported (format : String)
  /-- The arguments make no sense. -/
  | misuse
  deriving Repr

/-- How the command is used. -/
def usageText : String :=
  "\n".intercalate
    ["Usage: yamltree [-v]... <get|raw|which> [OPTIONS] <PATH>",
     "",
     "  -v, --verbose                  print more of the log",
     "  -r, --root <ROOT>              the root directory, else $YAMLTREE_ROOT, else .",
     "  -t, --top-level <TOP_LEVEL>    the directory below the root to begin at",
     "  -n, --namespace <NAME=VALUE>   what a placeholder stands for",
     "  -x, --extra <NAME=VALUE>       what it stands for in this lookup (get)",
     "  -f, --format <FORMAT>          text, json or yaml (get)",
     "  -d, --default <DEFAULT>        what to print if there is no value (get)",
     "  -V, --version                  print the version",
     ""]

/-- The version of the command. -/
def versionText : String := "yamltree 0.1.0\n"

/-- The text of a message, its last line ended. -/
def Message.text : Message → String
  | .record r => r.line ++ "\n"
  | .failure f => "✗ " ++ f.message ++ "\n"
  | .unsupported format => s!"Unsupported format: {format}. Use text, json, or yaml.\n"
  | .misuse => usageText

/-- What a run does. -/
structure Outcome where
  /-- The code that the run ends with. -/
  code : UInt8
  /-- What it prints. -/
  output : String
  /-- What it prints to the error stream. -/
  messages : List Message
  deriving Repr

/-! ### Requests -/

namespace Request

/-- The namespace that holds for every lookup. -/
def namespaceOf (request : Request) : Namespace := .ofBindings request.names

/-- The tree that a request is about. -/
def tree (request : Request) : Tree :=
  .new request.root request.topLevel request.namespaceOf .yaml

/-- The record of the root that lookups begin at. -/
def opening (request : Request) : Log.Record :=
  .opened request.root request.topLevel request.namespaceOf.size

/-- Which of the notes of a run the user asked to see.  The log filter of the environment is
taken as not set. -/
def shown (request : Request) (records : List Log.Record) : List Message :=
  (records.filter fun r => r.level.verbosity ≤ request.verbosity).map .record

/-- The outcome of a request whose answer is a text. -/
def answer (request : Request) (answer : Tree.Answer String) : Outcome :=
  let records := request.opening :: Note.records answer.notes
  match answer.result with
  | .ok text => ⟨0, text, request.shown records⟩
  | .error f => ⟨1, "", request.shown records ++ [.failure f]⟩

/-- The value that a request asks for. -/
def value (request : Request) (disk : Disk) : Tree.Answer Value :=
  if request.extra.isEmpty then request.tree.get disk request.path
  else request.tree.getWith disk request.path (.ofBindings request.extra)

/-- The outcome of a request for a value. -/
def get (request : Request) (disk : Disk) : Outcome :=
  match Format.ofName? request.format with
  | none => ⟨2, "", request.shown [request.opening] ++ [.unsupported request.format]⟩
  | some format =>
    let answer := request.value disk
    let records := request.opening :: Note.records answer.notes
    match answer.result, request.default with
    | .ok value, _ => ⟨0, format.render value, request.shown records⟩
    | .error f, some text =>
      ⟨0, text ++ "\n", request.shown (records ++ [.usingDefault request.path f.kind])⟩
    | .error f, none => ⟨1, "", request.shown records ++ [.failure f]⟩

/-- The outcome of a request. -/
def run (request : Request) (disk : Disk) : Outcome :=
  match request.command with
  | .get => request.get disk
  | .raw => request.answer (request.tree.raw disk request.path)
  | .which => request.answer <|
    let found := request.tree.source disk request.path
    { found with result := found.result.map (· ++ "\n") }

/-- The places that a request asks the disk about. -/
def asked (request : Request) : List String :=
  request.tree.asked request.path
    (request.namespaceOf.overlay (.ofBindings request.extra))

end Request

/-! ### Runs -/

/-- The outcome of reading the arguments. -/
def Reading.run (reading : Reading) (disk : Disk) : Outcome :=
  match reading with
  | .request question => question.run disk
  | .version => ⟨0, versionText, []⟩
  | .help => ⟨0, usageText, []⟩
  | .misuse => ⟨2, "", [.misuse]⟩

/-- A run with these arguments, this root named by the environment, and this disk.  The
environment has no filter for the log. -/
def run (arguments : List String) (rootVariable : Option String) (disk : Disk) : Outcome :=
  (read arguments rootVariable).run disk

end DottedConfig.Cli
