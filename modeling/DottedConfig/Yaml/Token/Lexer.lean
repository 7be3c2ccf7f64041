/-
From a text to its tokens.

Two things make this more than cutting at indicators.  Indentation opens and closes
blocks, so the columns of the open blocks are kept.  And a key without `?` is known
as one only when its `:` comes, on the same line and within 1024 octets; until
then each level of brackets keeps one candidate, and when the `:` comes the tokens
that begin the key are put in where the candidate stands.

A token that may yet turn out to begin a key is not handed out before that is settled.
So where a fault ends the reading, the tokens from the first open candidate on are not
among those that were read.
-/
import DottedConfig.Yaml.Token.Block
import DottedConfig.Yaml.Token.Plain
import DottedConfig.Yaml.Token.Quoted
import DottedConfig.Yaml.Token.Word

namespace DottedConfig.Yaml

/-! ### State -/

/-- A token that may begin a key. -/
structure Candidate where
  /-- How many tokens come before it. -/
  index : Nat
  /-- Whether nothing but a key can stand here. -/
  required : Bool
  /-- Where it begins. -/
  mark : Mark

/-- What has been read of a text. -/
structure Lexer where
  /-- What is left of the text. -/
  cursor : Cursor
  /-- The columns of the open blocks, the innermost first. -/
  indents : List Nat
  /-- The candidate within the innermost brackets, or outside of all. -/
  candidate : Option Candidate
  /-- The candidates around the open brackets, the innermost first. -/
  outer : List (Option Candidate)
  /-- Whether a key may begin here. -/
  keyAllowed : Bool
  /-- The tokens, the last one first. -/
  tokens : List Token
  /-- How many tokens there are. -/
  count : Nat
  /-- Whether the end of the text has been read. -/
  finished : Bool

/-- The tokens of a text; those that were read before a fault, if there is one. -/
structure TokenRow where
  /-- The tokens in order. -/
  tokens : List Token
  /-- The fault at which the reading ended. -/
  fault : Option Error

namespace Lexer

/-- The state before anything is read. -/
def start (cursor : Cursor) : Lexer :=
  { cursor := cursor, indents := [], candidate := none, outer := [], keyAllowed := true
    tokens := [], count := 0, finished := false }

/-- Whether brackets are open. -/
def inFlow (lexer : Lexer) : Bool := !lexer.outer.isEmpty

/-- Appends a token. -/
def emit (lexer : Lexer) (kind : Token.Kind) (mark : Mark) : Lexer :=
  { lexer with tokens := ⟨kind, mark⟩ :: lexer.tokens, count := lexer.count + 1 }

/-- Puts a token in before the one with this index. -/
def emitAt (lexer : Lexer) (index : Nat) (kind : Token.Kind) (mark : Mark) : Lexer :=
  let after := lexer.count - index
  { lexer with
    tokens := lexer.tokens.take after ++ ⟨kind, mark⟩ :: lexer.tokens.drop after
    count := lexer.count + 1 }

/-- Opens a block at a column, unless one is open there or further right. -/
def openBlock (lexer : Lexer) (column index : Nat) (kind : Token.Kind) (mark : Mark) : Lexer :=
  if lexer.inFlow || lexer.indents.head?.any (column ≤ ·) then lexer
  else { lexer with indents := column :: lexer.indents }.emitAt index kind mark

/-- Closes the blocks right of a column, or all of them. -/
def closeBlocks (lexer : Lexer) (column : Option Nat) : Lexer :=
  if lexer.inFlow then lexer
  else
    let closed := (lexer.indents.takeWhile fun indent => column.all (· < indent)).length
    closed.repeat (fun l => l.emit .blockEnd l.cursor.mark)
      { lexer with indents := lexer.indents.drop closed }

/-- Gives the candidate up; a fault if nothing but a key can stand there. -/
def dropCandidate (lexer : Lexer) : Except Error Lexer :=
  match lexer.candidate with
  | some ⟨_, true, _⟩ => .error ⟨.keyWithoutColon, some lexer.cursor.mark⟩
  | _ => .ok { lexer with candidate := none }

/-- Makes the next token a candidate, if a key may begin here. -/
def saveCandidate (lexer : Lexer) : Except Error Lexer := do
  if lexer.keyAllowed then
    let required := !lexer.inFlow && lexer.indents.head? == some lexer.cursor.mark.column
    let lexer ← lexer.dropCandidate
    return { lexer with candidate := some ⟨lexer.count, required, lexer.cursor.mark⟩ }
  else return lexer

/-- The most octets that a key without `?` can have, with what separates it from its `:`. -/
def longestKey : Nat := 1024

/-- A candidate as it is at a place further on: given up after its line, or too far away. -/
def Candidate.expire (m : Mark) (candidate : Option Candidate) :
    Except Error (Option Candidate) :=
  match candidate with
  | none => .ok none
  | some c =>
    if c.mark.line < m.line || c.mark.offset + longestKey < m.offset then
      if c.required then .error ⟨.keyWithoutColon, some m⟩ else .ok none
    else .ok (some c)

/-- Gives up the candidates that are too far away by now. -/
def expireCandidates (lexer : Lexer) : Except Error Lexer := do
  let candidate ← Candidate.expire lexer.cursor.mark lexer.candidate
  let outer ← lexer.outer.mapM (Candidate.expire lexer.cursor.mark)
  return { lexer with candidate := candidate, outer := outer }

/-- The index of the first token that may yet begin a key, if there is one. -/
def firstOpen? (lexer : Lexer) : Option Nat :=
  ((lexer.candidate :: lexer.outer).filterMap (·.map Candidate.index)).min?

/-- The row of tokens that were handed out before a fault. -/
def stopped (lexer : Lexer) (fault : Error) : TokenRow :=
  ⟨lexer.tokens.reverse.take (lexer.firstOpen?.getD lexer.count), some fault⟩

/-! ### Between tokens -/

/--
Takes white space and comments up to the next token.

A line end allows a key again outside of brackets.  Where a key may begin a tab is not
white space, for it cannot indent.  A byte order mark at the beginning of a line is passed
over but takes up a column.
-/
def skipSpace (flow : Bool) (keyAllowed comment : Bool) : List Char → Mark → Bool × Cursor
  | [], m => (keyAllowed, ⟨[], m⟩)
  | c :: rest, m =>
    if isBreak c then skipSpace flow (keyAllowed || !flow) false rest (m.nextLine c)
    else if comment || c == ' ' || (c == '\t' && (flow || !keyAllowed)) ||
        (c == byteOrderMark && m.column == 0) then
      skipSpace flow keyAllowed comment rest (m.next c)
    else if c == '#' then skipSpace flow keyAllowed true rest (m.next c)
    else (keyAllowed, ⟨c :: rest, m⟩)

/-! ### Tokens -/

/-- Takes a number of characters as one token. -/
def take (lexer : Lexer) (n : Nat) (kind : Token.Kind) : Lexer :=
  let cursor := lexer.cursor
  let after := cursor.mark.past (cursor.rest.take n)
  { lexer with cursor := ⟨cursor.rest.drop n, after⟩ }.emit kind cursor.mark

/-- Takes what a reader takes as one token. -/
def read (lexer : Lexer) (reading : Reading Token.Kind) : Except Error Lexer := do
  let (kind, cursor) ← reading.run lexer.cursor
  return { lexer with cursor := cursor }.emit kind lexer.cursor.mark

/-- The end of the text, which ends a line and all blocks. -/
def finish (lexer : Lexer) : Except Error Lexer := do
  let m := lexer.cursor.mark
  let m := if m.column = 0 then m else ⟨m.offset, m.line + 1, 0⟩
  let lexer := { lexer with cursor := ⟨lexer.cursor.rest, m⟩ }.closeBlocks none
  let lexer ← lexer.dropCandidate
  return { lexer with keyAllowed := false, finished := true }.emit .streamEnd m

/-- A line that ends all blocks: a directive or a marker. -/
def betweenDocuments (lexer : Lexer) : Except Error Lexer := do
  return { ← (lexer.closeBlocks none).dropCandidate with keyAllowed := false }

/-- An opening bracket. -/
def openFlow (lexer : Lexer) (kind : Token.Kind) : Except Error Lexer := do
  let lexer ← lexer.saveCandidate
  return { lexer with
    outer := lexer.candidate :: lexer.outer, candidate := none, keyAllowed := true }.take 1 kind

/-- A closing bracket. -/
def closeFlow (lexer : Lexer) (kind : Token.Kind) : Except Error Lexer := do
  let lexer ← lexer.dropCandidate
  let lexer := match lexer.outer with
    | [] => lexer
    | candidate :: outer => { lexer with candidate := candidate, outer := outer }
  return { lexer with keyAllowed := false }.take 1 kind

/-- A comma. -/
def flowEntry (lexer : Lexer) : Except Error Lexer := do
  return { ← lexer.dropCandidate with keyAllowed := true }.take 1 .flowEntry

/-- A `-` before an entry.  Within brackets it is left to the grammar to refuse it. -/
def blockEntry (lexer : Lexer) : Except Error Lexer := do
  let m := lexer.cursor.mark
  if !lexer.inFlow && !lexer.keyAllowed then throw ⟨.entryNotAllowed, some m⟩
  let lexer ← (lexer.openBlock m.column lexer.count .blockSequenceStart m).dropCandidate
  return { lexer with keyAllowed := true }.take 1 .blockEntry

/-- A `?` before a key. -/
def key (lexer : Lexer) : Except Error Lexer := do
  let m := lexer.cursor.mark
  if !lexer.inFlow && !lexer.keyAllowed then throw ⟨.keyNotAllowed, some m⟩
  let lexer ← (lexer.openBlock m.column lexer.count .blockMappingStart m).dropCandidate
  return { lexer with keyAllowed := !lexer.inFlow }.take 1 .key

/-- A `:` before a value: that of the candidate, which becomes a key now, or of a `?`. -/
def value (lexer : Lexer) : Except Error Lexer := do
  let m := lexer.cursor.mark
  match lexer.candidate with
  | some c =>
    let lexer := (lexer.emitAt c.index .key c.mark).openBlock c.mark.column c.index
      .blockMappingStart c.mark
    return { lexer with candidate := none, keyAllowed := false }.take 1 .value
  | none =>
    if !lexer.inFlow && !lexer.keyAllowed then throw ⟨.valueNotAllowed, some m⟩
    let lexer := lexer.openBlock m.column lexer.count .blockMappingStart m
    return { lexer with keyAllowed := !lexer.inFlow }.take 1 .value

/-- A token that may begin a key, but after which none may. -/
def candidateToken (lexer : Lexer) (reading : Reading Token.Kind) : Except Error Lexer := do
  ({ ← lexer.saveCandidate with keyAllowed := false } : Lexer).read reading

/-- A block scalar. -/
def blockScalar (lexer : Lexer) (folds : Bool) : Except Error Lexer := do
  let lexer := { ← lexer.dropCandidate with keyAllowed := true }
  lexer.read do
    Reading.skip 1
    return .scalar .block (← Block.scan folds lexer.indents.head?)

/-- A scalar in quotes. -/
def quotedScalar (lexer : Lexer) (double : Bool) : Except Error Lexer :=
  lexer.candidateToken do
    Reading.skip 1
    let cursor ← get
    let (text, cursor) ← Quoted.scan double [] .none cursor.rest cursor.mark
    set cursor
    return .scalar .quoted text

/-- A plain scalar.  If it reaches over a line end, a key may begin after it. -/
def plainScalar (lexer : Lexer) : Except Error Lexer := do
  let m := lexer.cursor.mark
  let lexer ← lexer.saveCandidate
  let indent := lexer.indents.head?.elim 0 (· + 1)
  let scanned ← Plain.scan lexer.inFlow indent [] .none lexer.cursor.rest m
  return { lexer with cursor := scanned.cursor, keyAllowed := scanned.broken }.emit
    (.scalar .plain scanned.text) m

/-- The token that begins here, which is neither a marker nor a directive. -/
def token (lexer : Lexer) (c : Char) (rest : List Char) : Except Error Lexer :=
  let flow := lexer.inFlow
  let m := lexer.cursor.mark
  match c with
  | '[' => lexer.openFlow .flowSequenceStart
  | '\x7b' => lexer.openFlow .flowMappingStart
  | ']' => lexer.closeFlow .flowSequenceEnd
  | '\x7d' => lexer.closeFlow .flowMappingEnd
  | ',' => lexer.flowEntry
  | '*' => lexer.candidateToken do Reading.skip 1; return .alias (← Word.anchorName)
  | '&' => lexer.candidateToken do Reading.skip 1; return .anchor (← Word.anchorName)
  | '!' => lexer.candidateToken (Word.tag flow)
  | '\'' => lexer.quotedScalar false
  | '"' => lexer.quotedScalar true
  | c =>
    if c == '-' && endsWord rest then lexer.blockEntry
    else if c == '?' && (flow || endsWord rest) then lexer.key
    else if c == ':' && (flow || endsWord rest) then lexer.value
    else if c == '|' && !flow then lexer.blockScalar false
    else if c == '>' && !flow then lexer.blockScalar true
    else if Plain.canBegin flow (c :: rest) then lexer.plainScalar
    else .error ⟨.strayCharacter c, some m⟩

/-- Reads the next token, and those for the blocks that end or begin before it. -/
def step (lexer : Lexer) : Except Error Lexer := do
  let (keyAllowed, cursor) :=
    skipSpace lexer.inFlow lexer.keyAllowed false lexer.cursor.rest lexer.cursor.mark
  let lexer ← { lexer with cursor := cursor, keyAllowed := keyAllowed }.expireCandidates
  let lexer := lexer.closeBlocks (some cursor.mark.column)
  match cursor.rest with
  | [] => lexer.finish
  | c :: rest =>
    if cursor.mark.column = 0 && c = '%' then
      (← lexer.betweenDocuments).read Word.directive
    else if cursor.mark.column = 0 && atMarker (c :: rest) then
      return (← lexer.betweenDocuments).take 3 (if c = '-' then .documentStart else .documentEnd)
    else lexer.token c rest

/--
Reads tokens up to the end of the text or a fault.

Before a token is handed out, the candidates that are too far away once it has been read are
given up.  If nothing but a key could stand where one of them does, no more is handed out than
before the step.

Each step takes at least one character or is the last one, so one unit of fuel more than
there are characters is enough.
-/
def run : Nat → Lexer → TokenRow
  | 0, lexer => lexer.stopped ⟨.expectedNode, some lexer.cursor.mark⟩
  | fuel + 1, lexer =>
    match lexer.step >>= expireCandidates with
    | .error fault => lexer.stopped fault
    | .ok next => if next.finished then ⟨next.tokens.reverse, none⟩ else run fuel next

end Lexer

/-- The tokens of a text. -/
def TokenRow.ofCursor (cursor : Cursor) : TokenRow :=
  Lexer.run (cursor.rest.length + 1) (.start cursor)

end DottedConfig.Yaml
