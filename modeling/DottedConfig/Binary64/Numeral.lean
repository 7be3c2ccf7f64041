/-
Reading decimal numerals as 64-bit numbers.

A numeral is an optional sign, digits with at most one point among or around them,
and an optional power of ten after `e` or `E`.  There is at least one digit before
the power, and at least one in it.
-/
import DottedConfig.Binary64.Nearest

namespace DottedConfig.Binary64

/-- The value of a row of decimal digits. -/
def digitsValue (digits : List Char) : Nat :=
  digits.foldl (fun n c => 10 * n + (c.toNat - '0'.toNat)) 0

/-- A sign in front, if there is one: whether it is `-`, and what follows it. -/
def takeSign : List Char → Bool × List Char
  | '-' :: rest => (true, rest)
  | '+' :: rest => (false, rest)
  | cs => (false, cs)

/-- The power of ten at the end of a numeral. -/
def readPower : List Char → Option Int
  | [] => some 0
  | c :: rest =>
    if c = 'e' || c = 'E' then
      let (negative, digits) := takeSign rest
      if digits.isEmpty || !digits.all Char.isDigit then none
      else some (if negative then -(digitsValue digits : Int) else digitsValue digits)
    else none

/-- Reads a numeral; one that is too large is read as an infinity. -/
def ofNumeral? (cs : List Char) : Option Binary64 :=
  let (negative, rest) := takeSign cs
  let whole := rest.takeWhile Char.isDigit
  let afterWhole := rest.dropWhile Char.isDigit
  let (fraction, afterFraction) := match afterWhole with
    | '.' :: more => (more.takeWhile Char.isDigit, more.dropWhile Char.isDigit)
    | more => ([], more)
  if whole.isEmpty && fraction.isEmpty then none
  else (readPower afterFraction).map fun power =>
    ofDecimal negative (digitsValue (whole ++ fraction)) (power - fraction.length)

end DottedConfig.Binary64
