/-
Blank characters, and cutting them off the ends of a text.

A character is blank if it has the Unicode property `White_Space`.  That is more
than the four characters of `Char.isWhitespace`: the vertical tab, the form feed,
the next-line control and the spaces beyond ASCII count too.
-/

namespace DottedConfig.Text

/-- Whether a character has the Unicode property `White_Space`. -/
def isBlank (c : Char) : Bool :=
  let n := c.toNat
  (9 ≤ n && n ≤ 13) || n == 0x20 || n == 0x85 || n == 0xA0 || n == 0x1680 ||
    (0x2000 ≤ n && n ≤ 0x200A) || n == 0x2028 || n == 0x2029 || n == 0x202F ||
    n == 0x205F || n == 0x3000

/-- The characters without the blank ones at both ends. -/
def trimChars (cs : List Char) : List Char :=
  ((cs.dropWhile isBlank).reverse.dropWhile isBlank).reverse

/-- A text without the blank characters at both ends. -/
def trim (s : String) : String := String.ofList (trimChars s.toList)

/-- Whether a text holds blank characters only. -/
def allBlank (s : String) : Bool := s.toList.all isBlank

example : trim "\t a b\u00a0\n" = "a b" := by decide +kernel
example : trim "\u200b" = "\u200b" := by decide +kernel

end DottedConfig.Text
