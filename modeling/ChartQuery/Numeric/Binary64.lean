import ChartQuery.Numeric.Decimal

/-!
# Double precision numbers

The numbers of the binary64 format as exact values: a sign, a mantissa below `2 ^ 53` and a power
of two.  Every operation is the exact one, rounded to the nearest number of the format, a half to
the one with the even mantissa.
-/

namespace ChartQuery

/-- A number of the binary64 format.  A finite number is kept with a mantissa of 53 bits, or with
the least exponent if it is too small for that. -/
inductive Binary64
  | nan
  | infinite (negative : Bool)
  | finite (negative : Bool) (mantissa : Nat) (exponent : Int)
  deriving DecidableEq, Repr

namespace Binary64

open Numeric

/-- The least exponent of a finite number. -/
def minExponent : Int := -1074

/-- The greatest exponent of a finite number. -/
def maxExponent : Int := 971

/-- Zero with a sign. -/
def zero (negative : Bool) : Binary64 := finite negative 0 minExponent

instance : Inhabited Binary64 := ⟨zero false⟩

/-! ### Magnitudes as quotients -/

/-- A mantissa times a power of two as a quotient: numerator and denominator. -/
def ratio (mantissa : Nat) (exponent : Int) : Nat × Nat :=
  if 0 ≤ exponent then (mantissa * Nat.pow 2 exponent.toNat, 1)
  else (mantissa, Nat.pow 2 (-exponent).toNat)

/-- The exponent with which a positive quotient has a mantissa of 53 bits, or the least one. -/
def fittingExponent (num den : Nat) : Int :=
  let k : Int := (num.log2 : Int) - den.log2
  let (p, q) := ratio 1 k
  max (if den * p ≤ num * q then k - 52 else k - 53) minExponent

/-- The number nearest to a quotient, with a sign. -/
def ofRatio (negative : Bool) (num den : Nat) : Binary64 :=
  if num = 0 then zero negative
  else
    let e := fittingExponent num den
    let (p, q) := ratio 1 e
    let m := roundHalfEven (num * q) (den * p)
    let (m, e) := if m = Nat.pow 2 53 then (Nat.pow 2 52, e + 1) else (m, e)
    if maxExponent < e then infinite negative else finite negative m e

/-- The number nearest to an integer. -/
def ofInt (n : Int) : Binary64 := ofRatio (n < 0) n.natAbs 1

/-- The number nearest to a decimal, with a sign.  Magnitudes far outside the format are told by the
place of their first digit, so that no huge power of ten is formed. -/
def ofDecimal (negative : Bool) (d : Decimal) : Binary64 :=
  let places : Int := (digits d.coefficient).length + d.exponent
  if d.coefficient = 0 then zero negative
  else if 400 < places then infinite negative
  else if places < -400 then zero negative
  else
    let (p, q) := powerOfTen d.exponent
    ofRatio negative (d.coefficient * p) q

/-! ### Operations -/

/-- Whether the number is below zero; no zero is. -/
def isNegative : Binary64 → Bool
  | nan => false
  | infinite negative => negative
  | finite negative m _ => negative && m != 0

/-- Whether the number is a zero of either sign. -/
def isZero : Binary64 → Bool
  | finite _ m _ => m == 0
  | _ => false

/-- The magnitude of a number times a natural number, rounded. -/
def scaledMagnitude (factor : Nat) : Binary64 → Binary64
  | nan => nan
  | infinite _ => infinite false
  | finite _ m e =>
    let (num, den) := ratio m e
    ofRatio false (num * factor) den

/-- The range of integers of 64 bits. -/
def clampInt64 (n : Int) : Int := max (-Int.pow 2 63) (min n (Int.pow 2 63 - 1))

/-- The nearest integer, a half away from zero, clamped to 64 bits; no number counts as zero. -/
def toInt64 : Binary64 → Int
  | nan => 0
  | infinite negative => clampInt64 (if negative then -Int.pow 2 64 else Int.pow 2 64)
  | finite negative m e =>
    let (num, den) := ratio m e
    let n : Int := roundHalfUp num den
    clampInt64 (if negative then -n else n)

end Binary64

end ChartQuery
