/-
The tags of nodes.

A tag is a row of octets, for the escapes in it spell octets, and nothing makes these a
text.  It ends before the first octet that is zero.  A tag that begins with `!` is of the
text's own making; if its octets are a text it has a name and is kept, otherwise it says
nothing.  Any other tag is a standard one or unknown.
-/

namespace DottedConfig.Yaml

/-- A tag, with its handle replaced by what that stands for. -/
structure Tag where
  /-- Its octets. -/
  octets : List UInt8
  deriving DecidableEq, Repr

namespace Tag

/-- The tag that a row of octets spells. -/
def ofOctets (octets : List UInt8) : Tag := ⟨octets.takeWhile (· != 0)⟩

/-- The tag that a text spells. -/
def ofString (s : String) : Tag := ofOctets (s.toList.flatMap String.utf8EncodeChar)

/-- Whether a tag has no octets. -/
def isEmpty (tag : Tag) : Bool := tag.octets.isEmpty

instance : Append Tag := ⟨fun first second => ⟨first.octets ++ second.octets⟩⟩

/-- The tag `!` alone. -/
def bare : Tag := ofString "!"

/-- The standard tag of this name. -/
def standard (name : String) : Tag := ofString ("tag:yaml.org,2002:" ++ name)

/-- Whether a tag is of the text's own making. -/
def isOwn (tag : Tag) : Bool := tag.octets.take 1 == bare.octets

/-- The name of a tag of the text's own making: what follows the `!`, or the `!` alone. -/
def ownName? (tag : Tag) : Option String :=
  if tag = bare then some "!"
  else if tag.isOwn then String.fromUTF8? (tag.octets.drop 1).toByteArray
  else none

example : (ofString "!point").ownName? = some "point" := by decide +kernel

example : (ofOctets [0x21, 0xED, 0xA0, 0x80]).ownName? = none := by decide +kernel

end Tag

end DottedConfig.Yaml
