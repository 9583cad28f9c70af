import ChartQuery.Numeric.Binary64

/-!
# Number patterns

A number pattern such as `#,##0.00;(#,##0.00)` gives the numbers of digits on either side of the
point, the size of the groups of digits, and what stands around positive and negative numbers.  A
percent or per mille sign multiplies the number.  Text between single quotes stands for itself, two
single quotes for one.
-/

namespace ChartQuery

open Numeric

/-! ### Parts of a pattern -/

namespace NumberPattern

/-- The single quote, between two of which text stands for itself. -/
def quote : Char := '\x27'

/-- The parts of a pattern before and after the first semicolon outside of quotes. -/
def splitParts (quoted : Bool) : List Char → List Char × Option (List Char)
  | [] => ([], none)
  | c :: cs =>
    if c = ';' ∧ !quoted then ([], some cs)
    else
      let (part, rest) := splitParts (if c = quote then !quoted else quoted) cs
      (c :: part, rest)

/-- Where a reader of a part stands: before, in or after the digits. -/
inductive Place
  | leading
  | number
  | trailing
  deriving DecidableEq, Repr

/-- A part of a pattern: the text before the digits, the digits, the text after them, and the
factor that its signs ask for. -/
structure Part where
  leading : List Char
  number : List Char
  trailing : List Char
  multiplier : Nat
  deriving DecidableEq, Repr

/-- The part of an empty text. -/
def Part.empty : Part := ⟨[], [], [], 1⟩

/-- The part with one more character of surrounding text. -/
def Part.push (p : Part) (place : Place) (c : Char) : Part :=
  if place = .leading then { p with leading := p.leading ++ [c] }
  else { p with trailing := p.trailing ++ [c] }

/-- The part with one more character outside of quotes that is not a digit: percent and per mille
set the factor, and the currency sign becomes a dollar. -/
def Part.pushSign (p : Part) (place : Place) (c : Char) : Part :=
  if c = '%' then { p.push place c with multiplier := 100 }
  else if c = '\u2030' then { p.push place c with multiplier := 1000 }
  else if c = '\u00a4' then p.push place '$'
  else p.push place c

/-- The characters that place digits. -/
def isDigitChar (c : Char) : Bool :=
  c.isDigit || c == '#' || c == ',' || c == '.'

/-- The place after something other than a digit. -/
def Place.next (place : Place) : Place :=
  if place = .leading then .leading else .trailing

/-- Reads a part.  The digits have to stand together, and a quoted text has to end. -/
def readPart (place : Place) (quoted : Bool) (p : Part) : List Char → Option Part
  | [] => if quoted then none else some p
  | '\x27' :: '\x27' :: cs => readPart place.next quoted (p.push place.next quote) cs
  | c :: cs =>
    if c = quote then readPart place.next (!quoted) p cs
    else if !quoted && isDigitChar c then
      if place = .trailing then none
      else readPart .number quoted { p with number := p.number ++ [c] } cs
    else if quoted then readPart place.next quoted (p.push place.next c) cs
    else readPart place.next quoted (p.pushSign place.next c) cs

/-- The part that a text describes. -/
def part? (cs : List Char) : Option Part := readPart .leading false .empty cs

/-! ### Digits of a pattern -/

/-- The layout of the digits: the least number of them before the point, the least and greatest
numbers after it, and the size of the groups before it, zero for none. -/
structure Layout where
  minWhole : Nat
  minFraction : Nat
  maxFraction : Nat
  grouping : Nat
  deriving DecidableEq, Repr

/-- The number of characters after the last comma, if there is a comma. -/
def groupSize? (whole : List Char) : Option Nat :=
  if whole.contains ',' then some (whole.reverse.takeWhile (· != ',')).length else none

/-- The layout that the digits of a pattern describe.  Optional digits stand outside of the
required ones on either side of the point, and a group has at least one digit. -/
def layout? (number : List Char) : Option Layout :=
  let whole := number.takeWhile (· != '.')
  let fraction := (number.dropWhile (· != '.')).drop 1
  let wholeDigits := whole.filter (· != ',')
  let grouping := groupSize? whole
  if fraction.contains '.' || fraction.contains ',' then none
  else if number.any fun c => c.isDigit && c != '0' then none
  else if wholeDigits.isEmpty && fraction.isEmpty then none
  else if (wholeDigits.dropWhile (· == '#')).contains '#' then none
  else if (fraction.reverse.dropWhile (· == '#')).contains '#' then none
  else if grouping = some 0 then none
  else some ⟨wholeDigits.count '0', fraction.count '0', fraction.length, grouping.getD 0⟩

end NumberPattern

/-! ### Patterns -/

/-- A number pattern: the texts around positive and negative numbers, the layout of the digits and
the factor. -/
structure NumberPattern where
  posLeading : List Char
  posTrailing : List Char
  negLeading : List Char
  negTrailing : List Char
  layout : NumberPattern.Layout
  multiplier : Nat
  deriving DecidableEq, Repr

namespace NumberPattern

/-- The pattern that a text describes.  Of the part for negative numbers only the surrounding text
counts; without that part a minus sign stands in front. -/
def parse? (pattern : String) : Option NumberPattern := do
  let (positive, negative?) := splitParts false pattern.toList
  let pos ← part? positive
  let layout ← layout? pos.number
  let (negLeading, negTrailing) ← match negative? with
    | none => some ('-' :: pos.leading, pos.trailing)
    | some negative => (part? negative).map fun neg => (neg.leading, neg.trailing)
  return ⟨pos.leading, pos.trailing, negLeading, negTrailing, layout, pos.multiplier⟩

/-- The pattern that is used where none is given: groups of three digits and up to three places
after the point. -/
def default : NumberPattern := ⟨[], [], ['-'], [], ⟨1, 0, 3, 3⟩, 1⟩

/-! ### Numbers as text -/

/-- The digits with a comma after each that has a positive multiple of `size` digits behind it. -/
def groupDigits (size : Nat) : List Char → List Char
  | [] => []
  | c :: cs =>
    if cs.length ≠ 0 ∧ cs.length % size = 0 then c :: ',' :: groupDigits size cs
    else c :: groupDigits size cs

/-- The digits before the point in groups.  What is not all digits stays whole. -/
def grouped (size : Nat) (ds : List Char) : List Char :=
  if size = 0 ∨ !ds.all Char.isDigit then ds else groupDigits size ds

/-- The room that a text takes, which is that of its encoding; the sign of infinity takes as much as
three digits. -/
def width (cs : List Char) : Nat := cs.foldl (fun n c => n + c.utf8Size) 0

/-- The digits after the point: as many as given, without zeros beyond the least number, and with
zeros up to it. -/
def fractionText (minFraction : Nat) (fraction : List Char) : List Char :=
  let required := fraction.take minFraction
  let optional := ((fraction.drop minFraction).reverse.dropWhile (· == '0')).reverse
  required ++ List.replicate (minFraction - fraction.length) '0' ++ optional

/-- The digits before the point, without zeros in front and then with zeros up to the least
number. -/
def wholeText (minWhole : Nat) (whole : List Char) : List Char :=
  let ds := whole.dropWhile (· == '0')
  List.replicate (minWhole - width ds) '0' ++ ds

/-- The text of a number with the given sign and digits.  It has a digit even where none is
required. -/
def assemble (p : NumberPattern) (negative : Bool) (whole fraction : List Char) : String :=
  let fraction := fractionText p.layout.minFraction fraction
  let whole := wholeText p.layout.minWhole whole
  let whole := if whole.isEmpty && fraction.isEmpty then ['0'] else whole
  let body := grouped p.layout.grouping whole ++
    (if fraction.isEmpty then [] else '.' :: fraction)
  String.ofList <|
    if negative then p.negLeading ++ body ++ p.negTrailing
    else p.posLeading ++ body ++ p.posTrailing

/-- The text of an integer. -/
def formatInt (p : NumberPattern) (n : Int) : String :=
  p.assemble (n * p.multiplier < 0) (digits (n.natAbs * p.multiplier)) []

/-- The text of a double precision number.  A number that is rounded to zero has no sign. -/
def formatBinary64 (p : NumberPattern) (x : Binary64) : String :=
  match x with
  | .nan => "NaN"
  | .infinite negative => p.assemble negative ['\u221e'] []
  | .finite .. =>
    match x.scaledMagnitude p.multiplier with
    | .finite _ m e =>
      let (num, den) := Binary64.ratio m e
      let (whole, fraction) := fixedPlaces p.layout.maxFraction num den
      let isZero := (whole ++ fraction).all (· == '0')
      p.assemble (x.isNegative && !isZero) whole fraction
    | _ => p.assemble x.isNegative ['i', 'n', 'f'] []

end NumberPattern

end ChartQuery
