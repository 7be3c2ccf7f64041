/-
From tokens to the nodes that they spell, in the order in which the nodes begin.

An event is an alias, a scalar, or the beginning or end of a collection.  Everything
the grammar leaves out is put in here: a value that is not written is an empty plain
scalar, and tags have their handles replaced by what these stand for.  The events of
a text are those of its first document; of what follows it only counts whether it is
there.
-/
import DottedConfig.Yaml.Token.Lexer

namespace DottedConfig.Yaml

/-- What can stand in front of a node. -/
structure Properties where
  /-- The name under which aliases can stand for the node. -/
  anchor : Option String
  /-- The tag. -/
  tag : Option Tag
  deriving DecidableEq, Repr

/-- No properties. -/
def Properties.none : Properties := ⟨Option.none, Option.none⟩

/-- What happens at a place of a text. -/
inductive Event.Kind where
  /-- A name stands for a node that came before. -/
  | alias (name : String)
  /-- A scalar. -/
  | scalar (properties : Properties) (style : Style) (text : String)
  /-- A sequence begins. -/
  | sequenceStart (properties : Properties)
  /-- A mapping begins; its keys and values follow in turn. -/
  | mappingStart (properties : Properties)
  /-- The innermost collection ends. -/
  | collectionEnd
  deriving DecidableEq, Repr

/-- An event and its place. -/
structure Event where
  /-- What happens. -/
  kind : Event.Kind
  /-- Where. -/
  mark : Mark

/-- The events of a text. -/
structure EventRow where
  /-- The events of the first document, or those before a fault. -/
  events : List Event
  /-- The fault at which the first document ended. -/
  fault : Option Error
  /-- Whether something follows the first document. -/
  more : Bool

namespace Event

/-- The tokens that are left and the events so far, the last one first. -/
structure Progress where
  /-- The tokens that are left. -/
  tokens : List Token
  /-- The fault after them. -/
  fault : Option Error
  /-- What the handles of tags stand for. -/
  handles : List (String × Tag)
  /-- The events so far. -/
  events : List Event

/-- A part of the grammar.  A fault leaves the events before it as they are. -/
abbrev Grammar := EStateM Error Progress

namespace Grammar

/-- The next token. -/
def peek : Grammar Token := do
  let progress ← get
  match progress.tokens with
  | token :: _ => return token
  | [] => throw (progress.fault.getD ⟨.expectedNode, none⟩)

/-- Leaves the next token behind. -/
def advance : Grammar Unit := modify fun p => { p with tokens := p.tokens.tail }

/-- Something happens. -/
def emit (kind : Kind) (mark : Mark) : Grammar Unit :=
  modify fun p => { p with events := ⟨kind, mark⟩ :: p.events }

/-- A value that is not written. -/
def emitEmpty (mark : Mark) : Grammar Unit := emit (.scalar .none .plain "") mark

/-! ### Properties -/

/-- A tag with its handle replaced. -/
def resolveTag (handle : String) (suffix : Tag) (mark : Mark) : Grammar Tag := do
  if handle.isEmpty then return suffix
  match (← get).handles.lookup handle with
  | some text => return text ++ suffix
  | none => throw ⟨.unknownHandle handle, some mark⟩

/-- An anchor, if one stands here. -/
def anchor? : Grammar (Option String) := do
  match (← peek).kind with
  | .anchor name => advance; return some name
  | _ => return none

/-- A tag, if one stands here. -/
def tag? : Grammar (Option (String × Tag × Mark)) := do
  let token ← peek
  match token.kind with
  | .tag handle suffix => advance; return some (handle, suffix, token.mark)
  | _ => return none

/-- An anchor and a tag, each of which may be missing, in either order. -/
def properties : Grammar Properties := do
  let early ← anchor?
  let tag ← tag?
  let late ← if early.isNone && tag.isSome then anchor? else pure none
  let tag ← match tag with
    | some (handle, suffix, mark) => pure (some (← resolveTag handle suffix mark))
    | none => pure none
  return ⟨early <|> late, tag⟩

/-! ### Nodes

Each call has one unit of fuel less than its caller.  Two calls in a row take at least
one token between them, so twice as much fuel as there are tokens is enough. -/

mutual

/-- A node; `block` allows it to be a block, `indentless` to be a row of entries alone. -/
def node (fuel : Nat) (block indentless : Bool) : Grammar Unit :=
  match fuel with
  | 0 => do throw ⟨.expectedNode, some (← peek).mark⟩
  | fuel + 1 => do
    let first ← peek
    if let .alias name := first.kind then
      advance
      emit (.alias name) first.mark
    else
      let properties ← properties
      let token ← peek
      let mark := first.mark
      match token.kind with
      | .blockEntry =>
        if indentless then
          emit (.sequenceStart properties) mark
          indentlessEntries fuel
        else unwritten properties token mark
      | .scalar style text =>
        emit (.scalar properties style text) mark
        advance
      | .flowSequenceStart =>
        emit (.sequenceStart properties) mark
        advance
        flowEntries fuel true
      | .flowMappingStart =>
        emit (.mappingStart properties) mark
        advance
        flowPairs fuel true
      | .blockSequenceStart =>
        if block then
          emit (.sequenceStart properties) mark
          advance
          blockEntries fuel
        else unwritten properties token mark
      | .blockMappingStart =>
        if block then
          emit (.mappingStart properties) mark
          advance
          blockPairs fuel
        else unwritten properties token mark
      | _ => unwritten properties token mark

/-- A node that is not written: there must be properties in its stead. -/
def unwritten (properties : Properties) (token : Token) (mark : Mark) :
    Grammar Unit := do
  if properties = .none then throw ⟨.expectedNode, some token.mark⟩
  emit (.scalar properties .plain "") mark

/-- The entries of a block sequence. -/
def blockEntries (fuel : Nat) : Grammar Unit :=
  match fuel with
  | 0 => do throw ⟨.expectedEntry, some (← peek).mark⟩
  | fuel + 1 => do
    let token ← peek
    match token.kind with
    | .blockEntry =>
      advance
      match (← peek).kind with
      | .blockEntry | .blockEnd => emitEmpty token.mark
      | _ => node fuel true false
      blockEntries fuel
    | .blockEnd =>
      emit .collectionEnd token.mark
      advance
    | _ => throw ⟨.expectedEntry, some token.mark⟩

/-- The entries of a sequence that is not indented more than the key it belongs to. -/
def indentlessEntries (fuel : Nat) : Grammar Unit :=
  match fuel with
  | 0 => do throw ⟨.expectedEntry, some (← peek).mark⟩
  | fuel + 1 => do
    let token ← peek
    match token.kind with
    | .blockEntry =>
      advance
      match (← peek).kind with
      | .blockEntry | .key | .value | .blockEnd => emitEmpty token.mark
      | _ => node fuel true false
      indentlessEntries fuel
    | _ => emit .collectionEnd token.mark

/-- The keys and values of a block mapping. -/
def blockPairs (fuel : Nat) : Grammar Unit :=
  match fuel with
  | 0 => do throw ⟨.expectedKey, some (← peek).mark⟩
  | fuel + 1 => do
    let token ← peek
    match token.kind with
    | .key =>
      advance
      match (← peek).kind with
      | .key | .value | .blockEnd => emitEmpty token.mark
      | _ => node fuel true true
      let token ← peek
      match token.kind with
      | .value =>
        advance
        match (← peek).kind with
        | .key | .value | .blockEnd => emitEmpty token.mark
        | _ => node fuel true true
      | _ => emitEmpty token.mark
      blockPairs fuel
    | .blockEnd =>
      emit .collectionEnd token.mark
      advance
    | _ => throw ⟨.expectedKey, some token.mark⟩

/-- The entries between square brackets; an entry with a `:` is a mapping of one pair. -/
def flowEntries (fuel : Nat) (first : Bool) : Grammar Unit :=
  match fuel with
  | 0 => do throw ⟨.expectedComma ']', some (← peek).mark⟩
  | fuel + 1 => do
    let token ← peek
    if token.kind = .flowSequenceEnd then
      emit .collectionEnd token.mark
      advance
    else
      if !first then
        if token.kind = .flowEntry then advance
        else throw ⟨.expectedComma ']', some token.mark⟩
      let token ← peek
      match token.kind with
      | .flowSequenceEnd =>
        emit .collectionEnd token.mark
        advance
      | .key =>
        emit (.mappingStart .none) token.mark
        advance
        flowPair fuel
        flowEntries fuel false
      | _ =>
        node fuel false false
        flowEntries fuel false

/--
A key and its value as an entry between square brackets.

Where the key is not written, what stands in its stead is left behind with it.
-/
def flowPair (fuel : Nat) : Grammar Unit :=
  match fuel with
  | 0 => do throw ⟨.expectedComma ']', some (← peek).mark⟩
  | fuel + 1 => do
    let token ← peek
    match token.kind with
    | .value | .flowEntry | .flowSequenceEnd =>
      advance
      emitEmpty token.mark
    | _ => node fuel false false
    let token ← peek
    match token.kind with
    | .value =>
      advance
      match (← peek).kind with
      | .flowEntry | .flowSequenceEnd => emitEmpty token.mark
      | _ => node fuel false false
    | _ => emitEmpty token.mark
    emit .collectionEnd (← peek).mark

/-- The keys and values between braces. -/
def flowPairs (fuel : Nat) (first : Bool) : Grammar Unit :=
  match fuel with
  | 0 => do throw ⟨.expectedComma '\x7d', some (← peek).mark⟩
  | fuel + 1 => do
    let token ← peek
    if token.kind = .flowMappingEnd then
      emit .collectionEnd token.mark
      advance
    else
      if !first then
        if token.kind = .flowEntry then advance
        else throw ⟨.expectedComma '\x7d', some token.mark⟩
      let token ← peek
      match token.kind with
      | .flowMappingEnd =>
        emit .collectionEnd token.mark
        advance
      | .key =>
        advance
        match (← peek).kind with
        | .value | .flowEntry | .flowMappingEnd => emitEmpty token.mark
        | _ => node fuel false false
        let token ← peek
        match token.kind with
        | .value =>
          advance
          match (← peek).kind with
          | .flowEntry | .flowMappingEnd => emitEmpty token.mark
          | _ => node fuel false false
        | _ => emitEmpty token.mark
        flowPairs fuel false
      | _ =>
        node fuel false false
        emitEmpty token.mark
        flowPairs fuel false

end

/-! ### Documents -/

/-- The directives in front of a document; `versioned` tells whether a version was given. -/
def directives (fuel : Nat) (versioned : Bool) (declared : List (String × Tag)) :
    Grammar Unit :=
  match fuel with
  | 0 => return
  | fuel + 1 => do
    let token ← peek
    match token.kind with
    | .version major minor =>
      if versioned then throw ⟨.repeatedDirective, some token.mark⟩
      if major != 1 || (minor != 1 && minor != 2) then
        throw ⟨.unsupportedVersion major minor, some token.mark⟩
      advance
      directives fuel true declared
    | .handle handle text =>
      if (declared.lookup handle).isSome then throw ⟨.repeatedDirective, some token.mark⟩
      advance
      directives fuel versioned ((handle, text) :: declared)
    | _ =>
      modify fun p => { p with
        handles := declared ++ [("!", .bare), ("!!", .standard "")] }

/-- The root of a document after `---`, which may be left out. -/
def explicitRoot (fuel : Nat) : Grammar Unit := do
  let token ← peek
  match token.kind with
  | .version .. | .handle .. | .documentStart | .documentEnd | .streamEnd =>
    emitEmpty token.mark
  | _ => node fuel true false

/-- The first document, if there is one, up to what follows it. -/
def firstDocument (fuel : Nat) : Grammar Unit := do
  match (← peek).kind with
  | .streamEnd => return
  | .version .. | .handle .. | .documentStart =>
    directives fuel false []
    let token ← peek
    if token.kind != .documentStart then throw ⟨.expectedDocument, some token.mark⟩
    advance
    explicitRoot fuel
  | _ =>
    directives fuel false []
    node fuel true false
  if (← peek).kind = .documentEnd then advance

end Grammar

/-- Whether the tokens after a document hold anything but more ends of documents. -/
def followedByMore (progress : Progress) : Bool :=
  match progress.tokens.dropWhile fun token => token.kind == .documentEnd with
  | token :: _ => token.kind != .streamEnd
  | [] => true

end Event

/-- The events of a row of tokens. -/
def EventRow.ofTokens (row : TokenRow) : EventRow :=
  let fuel := 2 * row.tokens.length + 4
  match (Event.Grammar.firstDocument fuel).run ⟨row.tokens, row.fault, [], []⟩ with
  | .ok _ progress => ⟨progress.events.reverse, none, Event.followedByMore progress⟩
  | .error fault progress => ⟨progress.events.reverse, some fault, false⟩

end DottedConfig.Yaml
