/-
Plain scalars: those without quotes.

A plain scalar goes on over several lines as long as these are indented more than the
block around it.  It ends before `: `, before a comment, before a document marker, and
within brackets before a comma or a bracket.
-/
import DottedConfig.Yaml.Folding

namespace DottedConfig.Yaml.Plain

/-- The brackets and the comma, which have a meaning within brackets. -/
def isFlowIndicator (c : Char) : Bool :=
  c == ',' || c == '[' || c == ']' || c == '\x7b' || c == '\x7d'

/-- The characters that no plain scalar begins with, unless `canBegin` makes an exception. -/
def indicators : List Char :=
  ['-', '?', ':', ',', '[', ']', '\x7b', '\x7d', '#', '&', '*', '!', '|', '>', '\'', '"',
    '%', '@', '\x60']

/-- Whether a plain scalar begins here. -/
def canBegin (flow : Bool) : List Char → Bool
  | [] => false
  | c :: rest =>
    (!isBlank c && !isBreak c && !indicators.contains c) ||
      (c == '-' && !(rest.head?.any isBlank)) ||
      (!flow && (c == '?' || c == ':') && !endsWord rest)

/-- Whether a character that is not white space ends a plain scalar. -/
def endsBefore (flow : Bool) (c : Char) (rest : List Char) : Bool :=
  (c == ':' && endsWord rest) || (flow && isFlowIndicator c)

/-- A plain scalar that has been read. -/
structure Scanned where
  /-- Its text. -/
  text : String
  /-- Whether lines ended after it. -/
  broken : Bool
  /-- What follows it and the white space after it. -/
  cursor : Cursor

/--
Reads on within a plain scalar.

`indent` is the least column at which a further line may begin outside of brackets,
`seen` is the text so far with its last character first, `gap` the white space after it.
-/
def scan (flow : Bool) (indent : Nat) (seen : List Char) (gap : Gap) :
    List Char → Mark → Except Error Scanned
  | [], m => .ok ⟨String.ofList seen.reverse, gap.isBroken, ⟨[], m⟩⟩
  | c :: rest, m =>
    if isBreak c then scan flow indent seen (gap.addBreak c) rest (m.nextLine c)
    else if isBlank c then
      if c = '\t' && gap.isBroken && m.column < indent then .error ⟨.tabIndent, some m⟩
      else scan flow indent seen (gap.addBlank c) rest (m.next c)
    else
      let ended := gap.isSome &&
        (c == '#' || (!flow && m.column < indent) || (m.column == 0 && atMarker (c :: rest)))
      if !ended && flow && c == ':' && rest.head?.any (fun d => d == '?' || isFlowIndicator d) then
        .error ⟨.strayColon, some m⟩
      else if ended || endsBefore flow c rest then
        .ok ⟨String.ofList seen.reverse, gap.isBroken, ⟨c :: rest, m⟩⟩
      else scan flow indent (c :: (gap.folded ++ seen)) .none rest (m.next c)

end DottedConfig.Yaml.Plain
