/-
The 64-bit number nearest to an exact one.

Of two that are equally near, the one with the even significand is taken.  What is
too large for the largest finite number becomes infinite.  The exact number is a
quotient of naturals, so integers and decimals are rounded once and rightly.
-/
import DottedConfig.Binary64

namespace DottedConfig.Binary64

/-- The integer nearest to `num / den`; halfway between two it is the even one. -/
def roundQuotient (num den : Nat) : Nat :=
  let whole := num / den
  match compare (2 * (num % den)) den with
  | .lt => whole
  | .eq => whole + whole % 2
  | .gt => whole + 1

/-- The power of two that the significand nearest to `num / den` counts. -/
def scaleFor (num den : Nat) : Int :=
  let d : Int := (num.log2 : Int) - den.log2
  let reaches : Bool :=
    if 0 ≤ d then den * Nat.pow 2 d.toNat ≤ num else den ≤ num * Nat.pow 2 (-d).toNat
  max (-1074) (if reaches then d - 52 else d - 53)

/-- The number of this sign nearest to `num / den`. -/
def ofQuotient (negative : Bool) (num den : Nat) : Binary64 :=
  if num = 0 then ofMagnitude negative 0
  else
    let q := scaleFor num den
    let m := roundQuotient (num * Nat.pow 2 (-q).toNat) (den * Nat.pow 2 q.toNat)
    let magnitude := (q + 1074).toNat * Nat.pow 2 52 + m
    if 2047 * Nat.pow 2 52 ≤ magnitude then infinity negative else ofMagnitude negative magnitude

/-- The number nearest to an integer. -/
def ofInt (i : Int) : Binary64 := ofQuotient (i < 0) i.natAbs 1

/--
The number nearest to `digits * 10 ^ exponent`.

The first test is for speed only: with four hundred places more or less than the
format can hold the answer is known without the power.
-/
def ofDecimal (negative : Bool) (digits : Nat) (exponent : Int) : Binary64 :=
  let places : Int := (Nat.toDigits 10 digits).length + exponent
  if digits = 0 || places < -400 then ofMagnitude negative 0
  else if 400 < places then infinity negative
  else ofQuotient negative (digits * Nat.pow 10 exponent.toNat) (Nat.pow 10 (-exponent).toNat)

example : (ofInt 1).bits = 0x3ff0000000000000 := by decide +kernel
example : (ofInt (-9223372036854775807)).bits = 0xc3e0000000000000 := by decide +kernel
example : (ofDecimal false 5 (-324)).bits = 1 := by decide +kernel
example : (ofDecimal false 24703282292062327208 (-343)).bits = 0 := by decide +kernel

end DottedConfig.Binary64
