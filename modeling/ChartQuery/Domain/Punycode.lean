/-!
# Punycode

Punycode is a way to write any label in ASCII: first its ASCII characters, then, after a hyphen, the
others in ascending order of their numbers.  Where each of them goes, and how far its number is from
the one before, are told together by one number.  Its digits are the letters and the decimal digits,
the lowest first, and a digit below a threshold ends it.

Like all rules for domain names this belongs to the library that URLs are read with, and no theorem
rests on it.
-/

namespace ChartQuery.Domain.Punycode

/-! ### Numbers -/

/-- The value of a digit: letters count from zero, decimal digits from twenty-six. -/
def digit? (c : Char) : Option Nat :=
  if 'a' ≤ c ∧ c ≤ 'z' then some (c.toNat - 'a'.toNat)
  else if '0' ≤ c ∧ c ≤ '9' then some (c.toNat - '0'.toNat + 26)
  else none

/-- The threshold of the digit at a position, where positions are counted in steps of 36. -/
def threshold (position bias : Nat) : Nat :=
  if position ≤ bias then 1 else min 26 (position - bias)

/-- A distance, divided by 35 until it is at most 455, together with 36 for each division. -/
def shrink (distance : Nat) : Nat × Nat :=
  if 455 < distance then
    let (d, positions) := shrink (distance / 35)
    (d, positions + 36)
  else (distance, 0)
termination_by distance
decreasing_by exact Nat.div_lt_self (by omega) (by omega)

/-- The bias for the next number, when a label has become as long as `length` by a number.  It makes
numbers of the same size as the last one short. -/
def nextBias (number length : Nat) (isFirst : Bool) : Nat :=
  let distance := if isFirst then number / 700 else number / 2
  let (d, positions) := shrink (distance + distance / length)
  positions + 36 * d / (d + 38)

/-! ### Labels -/

/-- A label that is being read, and a number in the middle. -/
structure Reading where
  /-- What the label has so far. -/
  label : List Char
  /-- The number of the last character that was put in. -/
  codePoint : Nat
  bias : Nat
  /-- Where the search for the next place began. -/
  start : Nat
  /-- Where it has come to. -/
  place : Nat
  weight : Nat
  position : Nat

namespace Reading

/-- Reading begins with the ASCII characters of a label. -/
def begin (label : List Char) : Reading := ⟨label, 128, 72, 0, 0, 1, 36⟩

/-- Puts a character into the label, when its number is complete. -/
def insert? (r : Reading) : Option Reading :=
  let length := r.label.length + 1
  let codePoint := r.codePoint + r.place / length
  let place := r.place % length
  if codePoint.isValidChar then
    some {
      label := r.label.insertIdx place (Char.ofNat codePoint)
      codePoint := codePoint
      bias := nextBias (r.place - r.start) length (r.start == 0)
      start := place + 1
      place := place + 1
      weight := 1
      position := 36 }
  else none

/-- Reads a digit.  Numbers have 32 bits. -/
def step (r : Reading) (c : Char) : Option Reading := do
  let digit ← digit? c
  let r := { r with place := r.place + digit * r.weight }
  if Nat.pow 2 32 ≤ r.place then none
  let t := threshold r.position r.bias
  if digit < t then r.insert?
  else
    let r := { r with weight := r.weight * (36 - t), position := r.position + 36 }
    if Nat.pow 2 32 ≤ r.weight then none else some r

/-- The label, unless a number is in the middle. -/
def label? (r : Reading) : Option (List Char) :=
  if r.position = 36 then some r.label else none

end Reading

/-- The label that is written in ASCII.  It has at least one character that is not ASCII, and no
hyphen stands before the digits alone. -/
def decode? (cs : List Char) : Option (List Char) :=
  let digits := (cs.reverse.takeWhile (· != '-')).reverse
  let before := cs.take (cs.length - digits.length)
  if digits.isEmpty ∨ before = ['-'] ∨ !before.all (·.toNat < 128) then none
  else do
    let r ← digits.foldlM Reading.step (.begin before.dropLast)
    r.label?

end ChartQuery.Domain.Punycode
