/-
Binary floating-point numbers of 64 bits, as IEEE 754 lays them out.

A number is its bits, so two numbers are the same exactly if nothing tells them
apart; the comparison that IEEE 754 prescribes, under which a NaN equals nothing and
the two zeros are equal, is `Binary64.equals`.  All arithmetic here is exact: a
finite number is a natural number times a power of two.
-/

namespace DottedConfig

/-- A number in the 64-bit binary format. -/
structure Binary64 where
  /-- One bit of sign, eleven of exponent, fifty-two of fraction. -/
  bits : UInt64
  deriving DecidableEq, Repr, Inhabited

namespace Binary64

/-! ### Parts -/

/-- Whether the sign bit is set. -/
def isNegative (x : Binary64) : Bool := Nat.pow 2 63 ≤ x.bits.toNat

/-- The exponent field. -/
def exponentField (x : Binary64) : Nat := x.bits.toNat / Nat.pow 2 52 % Nat.pow 2 11

/-- The fraction field. -/
def fractionField (x : Binary64) : Nat := x.bits.toNat % Nat.pow 2 52

/-- Whether `x` is neither a NaN nor infinite. -/
def isFinite (x : Binary64) : Bool := x.exponentField != 2047

/-- Whether `x` is not a number. -/
def isNaN (x : Binary64) : Bool := x.exponentField == 2047 && x.fractionField != 0

/-- Whether `x` is one of the two zeros. -/
def isZero (x : Binary64) : Bool := x.exponentField == 0 && x.fractionField == 0

/-- The significand of a finite number: its magnitude is this times `2 ^ x.scale`. -/
def significand (x : Binary64) : Nat :=
  if x.exponentField = 0 then x.fractionField else Nat.pow 2 52 + x.fractionField

/-- The power of two that the significand of a finite number counts. -/
def scale (x : Binary64) : Int :=
  if x.exponentField = 0 then -1074 else (x.exponentField : Int) - 1075

/-- Equality as IEEE 754 has it. -/
def equals (x y : Binary64) : Bool :=
  !x.isNaN && !y.isNaN && (x == y || (x.isZero && y.isZero))

/-! ### Numbers by their parts -/

/-- The number with this sign and these bits of magnitude. -/
def ofMagnitude (negative : Bool) (magnitude : Nat) : Binary64 :=
  ⟨UInt64.ofNat ((if negative then Nat.pow 2 63 else 0) + magnitude)⟩

/-- The infinity of this sign. -/
def infinity (negative : Bool) : Binary64 := ofMagnitude negative (2047 * Nat.pow 2 52)

/-- The NaN without a sign and without a payload. -/
def nan : Binary64 := ofMagnitude false (2047 * Nat.pow 2 52 + Nat.pow 2 51)

end Binary64

end DottedConfig
