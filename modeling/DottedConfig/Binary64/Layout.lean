/-
Writing 64-bit numbers as text.

Every writer prints the shortest digits that read back.  A layout says the rest: for
which sizes the digits are written out positionally, whether a whole number keeps a
`.0`, how the exponent is signed, and what stands for the numbers that are not finite.
-/
import DottedConfig.Binary64.Shortest

namespace DottedConfig.Binary64

/-- What a writer of numbers decides beyond the digits. -/
structure Layout where
  /-- Whether a number whose first digit counts this power of ten is written positionally. -/
  positional : Int → Bool
  /-- What follows the digits of a whole number that is written positionally. -/
  wholeTail : String
  /-- What stands before an exponent that is not negative. -/
  plus : String
  /-- What stands for a NaN. -/
  nan : String
  /-- What stands for an infinity, by its sign. -/
  infinite : Bool → String

/-- The digits of a decimal with the point at its place. -/
def Layout.positionalText (layout : Layout) (digits : List Char) (exponent : Int) : String :=
  if 0 ≤ exponent then
    String.ofList (digits ++ List.replicate exponent.toNat '0') ++ layout.wholeTail
  else
    let point : Int := digits.length + exponent
    if 0 < point then
      String.ofList (digits.take point.toNat ++ '.' :: digits.drop point.toNat)
    else String.ofList ('0' :: '.' :: (List.replicate (-point).toNat '0' ++ digits))

/-- The digits of a decimal with the point after the first, and the power of ten it counts. -/
def Layout.scientificText (layout : Layout) (digits : List Char) (power : Int) : String :=
  let tail := match digits.drop 1 with
    | [] => ""
    | rest => String.ofList ('.' :: rest)
  String.ofList (digits.take 1) ++ tail ++ "e" ++
    (if power < 0 then "-" else layout.plus) ++ toString power.natAbs

/-- The text of a number. -/
def Layout.text (layout : Layout) (x : Binary64) : String :=
  if x.isNaN then layout.nan
  else if !x.isFinite then layout.infinite x.isNegative
  else
    let d := x.shortest
    let digits := Nat.toDigits 10 d.digits
    let power : Int := digits.length + d.exponent - 1
    (if x.isNegative then "-" else "") ++
      if layout.positional power then layout.positionalText digits d.exponent
      else layout.scientificText digits power

end DottedConfig.Binary64
