/-!
# Decimal digits

Quotients of natural numbers, rounded and cut into decimal digits.  All arithmetic is exact.
-/

namespace ChartQuery.Numeric

/-! ### Digits -/

/-- The decimal digits of a natural number, the most significant first. -/
def digits (n : Nat) : List Char := Nat.toDigits 10 n

/-- The natural number with the given decimal digits; no digits stand for zero. -/
def ofDigits (ds : List Char) : Nat :=
  ds.foldl (fun n c => 10 * n + (c.toNat - 48)) 0

/-- The decimal digits of a natural number with zeros in front up to the given width. -/
def padded (width n : Nat) : List Char :=
  let ds := digits n
  List.replicate (width - ds.length) '0' ++ ds

/-- The text of an integer with zeros after the sign up to the given number of digits. -/
def paddedInt (width : Nat) (n : Int) : List Char :=
  if n < 0 then '-' :: padded width n.natAbs else padded width n.natAbs

/-! ### Rounding -/

/-- A quotient rounded to the nearest natural number, a half to the even one. -/
def roundHalfEven (num den : Nat) : Nat :=
  let q := num / den
  let r := num % den
  if 2 * r < den then q
  else if den < 2 * r then q + 1
  else if q % 2 = 0 then q else q + 1

/-- A quotient rounded to the nearest natural number, a half to the greater one. -/
def roundHalfUp (num den : Nat) : Nat := (2 * num + den) / (2 * den)

/-! ### Powers of ten -/

/-- A power of ten as a quotient: numerator and denominator. -/
def powerOfTen (e : Int) : Nat × Nat :=
  if 0 ≤ e then (Nat.pow 10 e.toNat, 1) else (1, Nat.pow 10 (-e).toNat)

/-- The exponent of the greatest power of ten that is not above a positive quotient. -/
def decimalExponent (num den : Nat) : Int :=
  if den ≤ num then ((digits (num / den)).length : Int) - 1
  else
    let places := (digits (den / num)).length - 1
    if den ≤ num * Nat.pow 10 places then -(places : Int) else -(places : Int) - 1

/-- A positive quotient rounded to so many significant digits, a half to the even neighbour: the
digits as a number, and the exponent of the first of them.  Rounding up to the next power of ten
raises the exponent. -/
def significant (places num den : Nat) : Nat × Int :=
  let e := decimalExponent num den
  let (p, q) := powerOfTen (places - 1 - e)
  let n := roundHalfEven (num * p) (den * q)
  if n = Nat.pow 10 places then (Nat.pow 10 (places - 1), e + 1) else (n, e)

/-- A quotient rounded to so many places after the point, a half to the even neighbour: the digits
before and after the point. -/
def fixedPlaces (places num den : Nat) : List Char × List Char :=
  let n := roundHalfEven (num * Nat.pow 10 places) den
  (digits (n / Nat.pow 10 places),
    if places = 0 then [] else padded places (n % Nat.pow 10 places))

/-! ### Texts -/

/-- A number as a coefficient times a power of ten. -/
structure Decimal where
  coefficient : Nat
  exponent : Int
  deriving DecidableEq, Repr

/-- The text of a decimal without an exponent, and without a point if it is whole. -/
def Decimal.positional (d : Decimal) : List Char :=
  let ds := digits d.coefficient
  if 0 ≤ d.exponent then ds ++ List.replicate d.exponent.toNat '0'
  else
    let places := (-d.exponent).toNat
    if places < ds.length then
      ds.take (ds.length - places) ++ '.' :: ds.drop (ds.length - places)
    else '0' :: '.' :: List.replicate (places - ds.length) '0' ++ ds

end ChartQuery.Numeric
