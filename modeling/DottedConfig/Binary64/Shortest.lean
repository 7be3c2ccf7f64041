/-
The shortest decimal that reads back as a given 64-bit number.

The reals that round to a finite number form an interval around it.  A decimal of
fewer digits lies on a coarser grid of powers of ten, and if any point of a grid lies
in the interval then one of the two neighbours of the number on that grid does.  So
the grids are tried from coarse to fine: the first with a hit has the fewest digits,
and of two hits the nearer is taken, of two equally near the even one.
-/
import DottedConfig.Binary64

namespace DottedConfig.Binary64

/-- The number `digits * 10 ^ exponent`. -/
structure Decimal where
  /-- Its significant digits, as a natural number. -/
  digits : Nat
  /-- The power of ten that the last digit counts. -/
  exponent : Int
  deriving DecidableEq, Repr

/-- Moves zeros at the end of the digits into the exponent, at most `fuel` of them. -/
def Decimal.stripZeros (fuel : Nat) (d : Decimal) : Decimal :=
  match fuel with
  | 0 => d
  | fuel + 1 =>
    if d.digits % 10 = 0 && d.digits != 0 then stripZeros fuel ⟨d.digits / 10, d.exponent + 1⟩
    else d

/-- An interval of reals and the number within it, all counted in one unit. -/
structure Rounding where
  /-- The number, in quarters of the unit of its significand. -/
  value : Nat
  /-- The least real that rounds to it. -/
  low : Nat
  /-- The greatest real that rounds to it. -/
  high : Nat
  /-- Whether the two ends round to it too. -/
  closed : Bool
  /-- The power of two that a quarter unit is. -/
  scale : Int

/-- The interval that rounds to `x`.  Below a power of two the numbers lie closer. -/
def rounding (x : Binary64) : Rounding :=
  let m := x.significand
  { value := 4 * m
    low := if x.fractionField = 0 && 1 < x.exponentField then 4 * m - 1 else 4 * m - 2
    high := 4 * m + 2
    closed := m % 2 == 0
    scale := x.scale - 2 }

/-- The point of the grid `10 ^ k` to be used for the number, if it has one in the interval. -/
def Rounding.onGrid (r : Rounding) (k : Int) : Option Nat :=
  let num := Nat.pow 2 r.scale.toNat * Nat.pow 10 (-k).toNat
  let den := Nat.pow 2 (-r.scale).toNat * Nat.pow 10 k.toNat
  let inside (point : Nat) : Bool :=
    if r.closed then r.low * num ≤ point * den && point * den ≤ r.high * num
    else r.low * num < point * den && point * den < r.high * num
  let below := r.value * num / den
  match inside below, inside (below + 1) with
  | false, false => none
  | true, false => some below
  | false, true => some (below + 1)
  | true, true =>
    match compare (2 * (r.value * num - below * den)) den with
    | .lt => some below
    | .gt => some (below + 1)
    | .eq => some (below + below % 2)

/-- Tries this grid and then finer ones. -/
def Rounding.search (r : Rounding) : Nat → Int → Decimal
  | 0, k =>
    let num := r.value * Nat.pow 2 r.scale.toNat * Nat.pow 10 (-k).toNat
    ⟨num / Nat.pow 2 (-r.scale).toNat, k⟩
  | fuel + 1, k =>
    match r.onGrid k with
    | some digits => ⟨digits, k⟩
    | none => search r fuel (k - 1)

/--
The shortest decimal of a finite number without its sign.

The first grid is coarser than the number is large, seventeen digits always suffice,
and thirty-two grids reach from the one to the other.
-/
def shortest (x : Binary64) : Decimal :=
  if x.isZero then ⟨0, 0⟩
  else
    let r := x.rounding
    let size : Int := r.value.log2 + r.scale + 1
    (r.search 32 (size * 30103 / 100000 + 1)).stripZeros 32

example : shortest ⟨0x0000000000000001⟩ = ⟨5, -324⟩ := by decide +kernel
example : shortest ⟨0x3fd3333333333334⟩ = ⟨30000000000000004, -17⟩ := by decide +kernel
example : shortest ⟨0x7fefffffffffffff⟩ = ⟨17976931348623157, 292⟩ := by decide +kernel
example : shortest ⟨0x44b52d02c7e14af6⟩ = ⟨1, 23⟩ := by decide +kernel

end DottedConfig.Binary64
