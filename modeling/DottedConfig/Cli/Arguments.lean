/-
The arguments of the command: what the user asks for.

A word that begins with `--` and goes on is a long option, one that begins with `-`
and goes on is a row of short ones, `--` alone makes everything after it an operand,
and every other word is an operand or the value of the option before it.  A value may
also be attached: after `=`, or right after a short option.  A value that is not
attached never begins with `-`, unless it is `-` itself.

The words before the subcommand are read on their own.  Only the request for more
output may stand there, or for the version; if it is made after the subcommand too,
the one after it counts.

Words are read from the left, and the first that asks for help or for the version, or
that makes no sense where it stands, ends the reading: what comes after it does not
count.  A value makes no sense if its option cannot have it, and neither does giving an
option or a path again that can be given once.  Only what is missing is found at the end.
-/
import DottedConfig.Template.Binding

namespace DottedConfig.Cli

/-! ### Requests -/

/-- What is asked about a dotted path. -/
inductive Command where
  /-- The value at the path. -/
  | get
  /-- The text of the file that owns the path. -/
  | raw
  /-- The path of the file that owns the path. -/
  | which
  deriving DecidableEq, Repr

/-- The subcommand of a name. -/
def Command.ofName? : String → Option Command
  | "get" => some .get
  | "raw" => some .raw
  | "which" => some .which
  | _ => none

/-- A request for the answer to one question. -/
structure Request where
  /-- What is asked. -/
  command : Command
  /-- The dotted path it is asked about. -/
  path : String
  /-- The root directory. -/
  root : String
  /-- The directory below the root to begin at. -/
  topLevel : Option String
  /-- What placeholders stand for. -/
  names : List Binding
  /-- What placeholders stand for besides, or instead. -/
  extra : List Binding
  /-- The name of the format to print a value in. -/
  format : String
  /-- What to print if there is no value. -/
  default : Option String
  /-- How much of the log to print. -/
  verbosity : Nat
  deriving Repr

/-- What a row of arguments asks for. -/
inductive Reading where
  /-- An answer. -/
  | request (request : Request)
  /-- The version of the command. -/
  | version
  /-- How the command is used. -/
  | help
  /-- Nothing: the arguments make no sense. -/
  | misuse
  deriving Repr

/-! ### Words -/

/-- What a word looks like. -/
inductive Shape where
  /-- Neither an option nor the end of the options. -/
  | plain
  /-- The end of the options. -/
  | endOfOptions
  /-- A long option, perhaps with its value. -/
  | long (name : String) (value : Option String)
  /-- Short options. -/
  | short (letters : List Char)
  deriving DecidableEq, Repr

/-- What a word looks like. -/
def shape (word : String) : Shape :=
  match word.toList with
  | ['-', '-'] => .endOfOptions
  | '-' :: '-' :: text =>
    .long (String.ofList (text.takeWhile (· != '='))) <|
      match text.dropWhile (· != '=') with
      | [] => none
      | _ :: value => some (String.ofList value)
  | ['-'] => .plain
  | '-' :: letters => .short letters
  | _ => .plain

/-- An option that stands alone. -/
inductive Flag where
  /-- Print more of the log. -/
  | verbose
  /-- Explain how the command is used. -/
  | help
  deriving DecidableEq, Repr

/-- An option that takes a value. -/
inductive Setting where
  /-- The root directory. -/
  | root
  /-- The directory below it to begin at. -/
  | topLevel
  /-- An entry of the namespace. -/
  | names
  /-- An entry of the namespace for this lookup only. -/
  | extra
  /-- The format of the answer. -/
  | format
  /-- What to print if there is no value. -/
  | default
  deriving DecidableEq, Repr

/-- An option of a subcommand. -/
inductive Known where
  /-- One that stands alone. -/
  | flag (flag : Flag)
  /-- One that takes a value. -/
  | setting (setting : Setting)
  deriving DecidableEq, Repr

/-- Whether a subcommand has a setting. -/
def Command.takes (command : Command) : Setting → Bool
  | .root | .topLevel | .names => true
  | .extra | .format | .default => command == .get

/-- All options, by letter and long name. -/
def options : List (Char × String × Known) :=
  [('v', "verbose", .flag .verbose),
   ('h', "help", .flag .help),
   ('r', "root", .setting .root),
   ('t', "top-level", .setting .topLevel),
   ('n', "namespace", .setting .names),
   ('x', "extra", .setting .extra),
   ('f', "format", .setting .format),
   ('d', "default", .setting .default)]

/-- Whether a subcommand has an option. -/
def Command.has (command : Command) : Known → Bool
  | .flag _ => true
  | .setting s => command.takes s

/-- The option that a subcommand has under a letter. -/
def Command.byLetter? (command : Command) (letter : Char) : Option Known :=
  ((options.find? (·.1 == letter)).map (·.2.2)).filter command.has

/-- The option that a subcommand has under a long name. -/
def Command.byName? (command : Command) (name : String) : Option Known :=
  ((options.find? (·.2.1 == name)).map (·.2.2)).filter command.has

/-! ### After the subcommand -/

/-- One thing that the words after the subcommand say. -/
inductive Item where
  /-- An option that stands alone. -/
  | flag (flag : Flag)
  /-- An option with its value. -/
  | setting (setting : Setting) (value : String)
  /-- A word of no option. -/
  | operand (word : String)
  /-- Nothing: there is no such option, or its value is not where it should be. -/
  | nonsense
  deriving DecidableEq, Repr

/-- What an option word says, and the setting whose value is the next word, if any. -/
abbrev Said := List Item × Option Setting

/-- What a long option says. -/
def Command.long (command : Command) (name : String) (value : Option String) : Said :=
  match command.byName? name, value with
  | some (.flag flag), none => ([.flag flag], none)
  | some (.setting setting), some value => ([.setting setting value], none)
  | some (.setting setting), none => ([], some setting)
  | some (.flag _), some _ | none, _ => ([.nonsense], none)

/-- What a row of short options says. -/
def Command.short (command : Command) : List Char → Said
  | [] => ([], none)
  | letter :: rest =>
    match command.byLetter? letter with
    | some (.flag flag) =>
      let (items, pending) := command.short rest
      (.flag flag :: items, pending)
    | some (.setting setting) =>
      match rest with
      | [] => ([], some setting)
      | '=' :: value | value => ([.setting setting (String.ofList value)], none)
    | none => ([.nonsense], none)

/-- What the words after a subcommand say.  The value of `pending` comes first. -/
def Command.items (command : Command) (pending : Option Setting) : List String → List Item
  | [] => if pending.isSome then [.nonsense] else []
  | word :: rest =>
    match pending, shape word with
    | some setting, .plain => .setting setting word :: command.items none rest
    | some _, _ => .nonsense :: command.items none rest
    | none, .plain => .operand word :: command.items none rest
    | none, .endOfOptions => rest.map .operand
    | none, .long name value =>
      let (items, pending) := command.long name value
      items ++ command.items pending rest
    | none, .short letters =>
      let (items, pending) := command.short letters
      items ++ command.items pending rest

/-! ### Drafts -/

/-- What has been said of a request so far. -/
structure Draft where
  /-- The path. -/
  path : Option String
  /-- The root directory. -/
  root : Option String
  /-- The directory below the root. -/
  topLevel : Option String
  /-- What placeholders stand for. -/
  names : List Binding
  /-- What they stand for besides, or instead. -/
  extra : List Binding
  /-- The name of the format. -/
  format : Option String
  /-- What to print if there is no value. -/
  default : Option String
  /-- How often more output was asked for. -/
  verbosity : Nat
  deriving DecidableEq, Repr

/-- Says something that can be said once. -/
def once (said : Option String) (value : String) : Except Reading (Option String) :=
  if said.isSome then .error .misuse else .ok (some value)

/-- Says a binding after those that were said before. -/
def bound (said : List Binding) (text : String) : Except Reading (List Binding) :=
  match Binding.parse text with
  | .ok binding => .ok (said ++ [binding])
  | .error _ => .error .misuse

namespace Draft

/-- The draft of which nothing has been said. -/
def empty : Draft := ⟨none, none, none, [], [], none, none, 0⟩

/-- The draft with a value given to a setting, if it can be. -/
def set (draft : Draft) (setting : Setting) (value : String) : Except Reading Draft :=
  match setting with
  | .root =>
    if value.isEmpty then .error .misuse
    else (once draft.root value).map ({ draft with root := · })
  | .topLevel => (once draft.topLevel value).map ({ draft with topLevel := · })
  | .names => (bound draft.names value).map ({ draft with names := · })
  | .extra => (bound draft.extra value).map ({ draft with extra := · })
  | .format => (once draft.format value).map ({ draft with format := · })
  | .default => (once draft.default value).map ({ draft with default := · })

/-- The draft after one thing more was said, or what the reading ends with. -/
def add (draft : Draft) : Item → Except Reading Draft
  | .flag .verbose => .ok { draft with verbosity := draft.verbosity + 1 }
  | .flag .help => .error .help
  | .setting setting value => draft.set setting value
  | .operand word => (once draft.path word).map ({ draft with path := · })
  | .nonsense => .error .misuse

/-- The draft after a row of things was said. -/
def addAll (draft : Draft) (items : List Item) : Except Reading Draft := items.foldlM add draft

/-- What a draft comes to in the end.  `outer` is how often more output was asked for before the
subcommand, and `rootVariable` names the root if no option does. -/
def reading (draft : Draft) (command : Command) (outer : Nat) (rootVariable : Option String) :
    Reading :=
  let root := (draft.root.or rootVariable).getD "."
  match draft.path with
  | none => .misuse
  | some path =>
    if root.isEmpty then .misuse
    else .request {
      command, path, root
      topLevel := draft.topLevel
      names := draft.names
      extra := draft.extra
      format := draft.format.getD "text"
      default := draft.default
      verbosity := if draft.verbosity = 0 then outer else draft.verbosity }

end Draft

/-- Reads the words after a subcommand. -/
def Command.read (command : Command) (outer : Nat) (rootVariable : Option String)
    (words : List String) : Reading :=
  match Draft.empty.addAll (command.items none words) with
  | .ok draft => draft.reading command outer rootVariable
  | .error reading => reading

/-! ### Before the subcommand -/

/-- How often a row of short options before the subcommand asks for more output. -/
def readLetters : List Char → Except Reading Nat
  | [] => .ok 0
  | 'v' :: rest => (readLetters rest).map (· + 1)
  | 'V' :: _ => .error .version
  | 'h' :: _ => .error .help
  | _ :: _ => .error .misuse

/-- Reads the words after `help`: nothing, or what help is asked about. -/
def readHelp : List String → Reading
  | [] => .help
  | [topic] => if topic = "help" || (Command.ofName? topic).isSome then .help else .misuse
  | _ => .misuse

/-- Reads the words from one before the subcommand on. -/
def readFrom (rootVariable : Option String) (outer : Nat) : List String → Reading
  | [] => .misuse
  | word :: rest =>
    match shape word with
    | .plain =>
      if word = "help" then readHelp rest
      else
        match Command.ofName? word with
        | some command => command.read outer rootVariable rest
        | none => .misuse
    | .endOfOptions => .misuse
    | .long "verbose" none => readFrom rootVariable (outer + 1) rest
    | .long "version" none => .version
    | .long "help" none => .help
    | .long .. => .misuse
    | .short letters =>
      match readLetters letters with
      | .ok count => readFrom rootVariable (outer + count) rest
      | .error reading => reading

/-- Reads the arguments of the command.  `rootVariable` is the root directory that the
environment names. -/
def read (arguments : List String) (rootVariable : Option String) : Reading :=
  readFrom rootVariable 0 arguments

example : shape "--root=a=b" = .long "root" (some "a=b") := by decide +kernel
example : shape "-" = .plain := by decide +kernel
example : Command.get.items none ["-vrcfg", "a", "-d", "-"] =
    [.flag .verbose, .setting .root "cfg", .operand "a", .setting .default "-"] := by
  decide +kernel
example : Command.get.items none ["a", "-d", "-5"] = [.operand "a", .nonsense] := by
  decide +kernel
example : Command.get.items none ["a", "-d-5", "--", "-v"] =
    [.operand "a", .setting .default "-5", .operand "-v"] := by decide +kernel
example : Command.raw.items none ["a", "-x", "b=1"] =
    [.operand "a", .nonsense, .operand "b=1"] := by decide +kernel
example : read ["get", "a", "-n", "b", "--help"] none = .misuse := rfl
example : read ["get", "--help", "-n", "b"] none = .help := rfl

end DottedConfig.Cli
