/-
The tokens that a special character begins: anchors, aliases, tags and directives.

A tag is given in full between angle brackets after its `!`, or by a handle, which is
`!`, `!!` or a name between two `!`, and what follows it.  A `%` and two hexadecimal
digits stand for one octet.  Octets have to come in rows that the first of them announces
as a character, but what character it is, or whether there is one, does not count.
-/
import DottedConfig.Yaml.Source
import DottedConfig.Yaml.Token

namespace DottedConfig.Yaml.Word

/-! ### Anchors -/

/-- Whether the name of an anchor can end here. -/
def endsAnchor (cs : List Char) : Bool :=
  endsWord cs || cs.head?.any (['?', ':', ',', ']', '\x7d', '%', '@', '\x60'].contains ·)

/-- Reads the name of an anchor or alias after its indicator. -/
def anchorName : Reading String := do
  let name ← Reading.takeWhile isWordChar
  if name.isEmpty || !endsAnchor (← Reading.rest) then Reading.fault .badAnchor
  return String.ofList name

/-! ### Tags -/

/-- Whether a character can stand in a tag; within angle brackets there are more. -/
def isTagChar (full : Bool) (c : Char) : Bool :=
  isWordChar c ||
    [';', '/', '?', ':', '@', '&', '=', '+', '$', '.', '%', '!', '~', '*', '\'', '(', ')'].contains c ||
    (full && [',', '[', ']'].contains c)

/-- The octet after a `%`, and what follows it. -/
def octet? : List Char → Option (Nat × List Char)
  | '%' :: a :: b :: rest => do
    let high ← Scalar.digit? 16 a
    let low ← Scalar.digit? 16 b
    return (16 * high + low, rest)
  | _ => none

/-- How many octets follow the first one of a character, as that one says. -/
def followers? (first : Nat) : Option Nat :=
  if first < 0x80 then some 0
  else if first / 32 = 6 then some 1
  else if first / 16 = 14 then some 2
  else if first / 8 = 30 then some 3
  else none

/-- So many octets, each of which continues a character, and what follows them. -/
def continued? : Nat → List Char → Option (List UInt8 × List Char)
  | 0, cs => some ([], cs)
  | n + 1, cs => do
    let (octet, rest) ← octet? cs
    if octet / 64 ≠ 2 then none
    let (octets, rest) ← continued? n rest
    return (octet.toUInt8 :: octets, rest)

/-- The octets that stand together for a character, and what follows them. -/
def escaped? (cs : List Char) : Option (List UInt8 × List Char) := do
  let (first, rest) ← octet? cs
  let (octets, rest) ← continued? (← followers? first) rest
  return (first.toUInt8 :: octets, rest)

/-- The octets of a row of tag characters, in which escapes are replaced by what they spell. -/
def octets? (cs : List Char) : Option (List UInt8) :=
  match cs with
  | [] => some []
  | c :: rest =>
    if c = '%' then
      match escaped? (c :: rest) with
      | some (octets, rest') =>
        if _h : rest'.length < (c :: rest).length then (octets? rest').map (octets ++ ·) else none
      | none => none
    else (octets? rest).map (String.utf8EncodeChar c ++ ·)
  termination_by cs.length
  decreasing_by
    · exact _h
    · simp

/-- Reads a row of tag characters. -/
def tagText (full : Bool) : Reading (List UInt8) := do
  let taken ← Reading.takeWhile (isTagChar full)
  match octets? taken with
  | some octets => return octets
  | none => Reading.fault .badTag

/-- Reads a `!`, the word after it and the `!` after that, if there is one. -/
def handleText : Reading (List Char) := do
  if (← Reading.peek?) != some '!' then Reading.fault .badTag
  Reading.skip 1
  let name ← Reading.takeWhile isWordChar
  if (← Reading.peek?) = some '!' then
    Reading.skip 1
    return '!' :: name ++ ['!']
  else return '!' :: name

/-- Reads a tag from its `!` on. -/
def tag (flow : Bool) : Reading Token.Kind := do
  let kind ← if (← Reading.rest)[1]? = some '<' then do
      Reading.skip 2
      let text ← tagText true
      if text.isEmpty || (← Reading.peek?) != some '>' then Reading.fault .badTag
      Reading.skip 1
      pure (Token.Kind.tag "" (.ofOctets text))
    else do
      let handle ← handleText
      if 1 < handle.length && handle.getLast? == some '!' then do
        let text ← tagText false
        if text.isEmpty then Reading.fault .badTag
        pure (Token.Kind.tag (String.ofList handle) (.ofOctets text))
      else do
        let word := (handle.drop 1).flatMap String.utf8EncodeChar
        let suffix := Tag.ofOctets (word ++ (← tagText false))
        if suffix.isEmpty then pure (Token.Kind.tag "" .bare)
        else pure (Token.Kind.tag "!" suffix)
  if !endsWord (← Reading.rest) && !(flow && (← Reading.peek?) == some ',') then
    Reading.fault .badTag
  return kind

/-! ### Directives -/

/-- Reads a number of up to nine digits. -/
def versionNumber : Reading Nat := do
  let digits ← Reading.takeWhile Char.isDigit
  if digits.isEmpty || 9 < digits.length then Reading.fault .badDirective
  return Binary64.digitsValue digits

/-- Reads a directive from its `%` to the end of its line. -/
def directive : Reading Token.Kind := do
  Reading.skip 1
  let name ← Reading.takeWhile isWordChar
  if name.isEmpty || !endsWord (← Reading.rest) then Reading.fault .badDirective
  let kind ← match String.ofList name with
    | "YAML" => do
      let _ ← Reading.takeWhile isBlank
      let major ← versionNumber
      if (← Reading.peek?) != some '.' then Reading.fault .badDirective
      Reading.skip 1
      pure (Token.Kind.version major (← versionNumber))
    | "TAG" => do
      let _ ← Reading.takeWhile isBlank
      let handle ← handleText
      if handle != ['!'] && !(1 < handle.length && handle.getLast? == some '!') then
        Reading.fault .badDirective
      if !(← Reading.peek?).any isBlank then Reading.fault .badDirective
      let _ ← Reading.takeWhile isBlank
      let text ← tagText true
      if text.isEmpty || !endsWord (← Reading.rest) then Reading.fault .badDirective
      pure (Token.Kind.handle (String.ofList handle) (.ofOctets text))
    | name => Reading.fault (.unknownDirective name)
  Reading.finishLine .badDirective
  return kind

end DottedConfig.Yaml.Word
