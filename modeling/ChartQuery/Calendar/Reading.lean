import ChartQuery.Calendar.Instant
import ChartQuery.Numeric.Decimal
import ChartQuery.Text.Blank

/-!
# Reading dates and times

Dates are read as year, month and day with hyphens between them, times of day as hour, minute and
second with colons between them and possibly a fraction.  Before each number there may be blanks.
Nothing may be left over.
-/

namespace ChartQuery.Calendar

open Numeric Text

/-! ### Numbers and signs -/

/-- Reads digits, at least one and at most so many. -/
def readDigits (most : Nat) (cs : List Char) : Option (Nat × List Char) :=
  let ds := (cs.takeWhile Char.isDigit).take most
  if ds.isEmpty then none else some (ofDigits ds, cs.drop ds.length)

/-- Reads a number of at most two digits, with blanks in front. -/
def readTwo (cs : List Char) : Option (Nat × List Char) := readDigits 2 (trimStart cs)

/-- Reads a year, with blanks in front: four digits at most, or any number of them after a sign. -/
def readYear (cs : List Char) : Option (Int × List Char) :=
  match trimStart cs with
  | '-' :: cs => (readDigits cs.length cs).map fun (n, cs) => (-(n : Int), cs)
  | '+' :: cs => (readDigits cs.length cs).map fun (n, cs) => ((n : Int), cs)
  | cs => (readDigits 4 cs).map fun (n, cs) => ((n : Int), cs)

/-- Reads a given character. -/
def readChar (c : Char) : List Char → Option (List Char)
  | [] => none
  | d :: cs => if d = c then some cs else none

/-- Reads a fraction of a second, if there is one, in nanoseconds.  Digits after the ninth do not
count. -/
def readFraction : List Char → Option (Nat × List Char)
  | '.' :: cs =>
    let ds := cs.takeWhile Char.isDigit
    if ds.isEmpty then none
    else
      let kept := ds.take 9
      some (ofDigits kept * Nat.pow 10 (9 - kept.length), cs.dropWhile Char.isDigit)
  | cs => some (0, cs)

/-! ### Dates and times of day -/

/-- Reads a date. -/
def readDate (cs : List Char) : Option (Date × List Char) := do
  let (year, cs) ← readYear cs
  let cs ← readChar '-' cs
  let (month, cs) ← readTwo cs
  let cs ← readChar '-' cs
  let (day, cs) ← readTwo cs
  let date ← Date.ofYmd? year month day
  return (date, cs)

/-- Reads a time of day.  Second 60 is a leap second. -/
def readClock (cs : List Char) : Option (Clock × List Char) := do
  let (hour, cs) ← readTwo cs
  let cs ← readChar ':' cs
  let (minute, cs) ← readTwo cs
  let cs ← readChar ':' cs
  let (second, cs) ← readTwo cs
  let (nano, cs) ← readFraction cs
  let clock ←
    if second = 60 then Clock.ofNanos? hour minute 59 (nanosPerSecond + nano)
    else Clock.ofNanos? hour minute second nano
  return (clock, cs)

/-- The value read if nothing is left over. -/
def complete {α : Type} : α × List Char → Option α
  | (a, []) => some a
  | (_, _ :: _) => none

/-- The date that a text is. -/
def date? (s : String) : Option Date := readDate s.toList >>= complete

/-- The time of day that a text is. -/
def clock? (s : String) : Option Clock := readClock s.toList >>= complete

/-- Reads a date and a time of day, between which `separator` is read. -/
def readInstant (separator : List Char → Option (List Char)) (cs : List Char) :
    Option (Instant × List Char) := do
  let (date, cs) ← readDate cs
  let cs ← separator cs
  let (clock, cs) ← readClock cs
  return (⟨date, clock⟩, cs)

/-- The instant that a text is, with any number of blanks after the date. -/
def instant? (s : String) : Option Instant :=
  readInstant (some ∘ trimStart) s.toList >>= complete

/-- The instant that a text is, with a letter T after the date. -/
def instantT? (s : String) : Option Instant :=
  readInstant (readChar 'T') s.toList >>= complete

/-! ### Offsets -/

/-- The two digits that a text begins with. -/
def twoDigits? : List Char → Option (Nat × List Char)
  | a :: b :: cs => if a.isDigit && b.isDigit then some (ofDigits [a, b], cs) else none
  | _ => none

/-- Reads hours and minutes, between which there may be colons and blanks; the minutes may be
missing at the end of the text. -/
def readOffsetDigits (cs : List Char) : Option (Int × List Char) := do
  let (hours, cs) ← twoDigits? cs
  match cs.dropWhile fun c => c == ':' || isBlank c with
  | [] => return (60 * (hours : Int), [])
  | cs =>
    let (minutes, cs) ← twoDigits? cs
    if minutes < 60 then return (60 * (hours : Int) + minutes, cs) else none

/-- Reads the offset of a zone in minutes, with blanks in front: the letter Z, or a sign and digits;
the minus sign may be the typographic one. -/
def readOffset (cs : List Char) : Option (Int × List Char) :=
  match trimStart cs with
  | 'Z' :: cs => some (0, cs)
  | 'z' :: cs => some (0, cs)
  | '+' :: cs => readOffsetDigits cs
  | '-' :: cs => (readOffsetDigits cs).map fun (m, cs) => (-m, cs)
  | '\u2212' :: cs => (readOffsetDigits cs).map fun (m, cs) => (-m, cs)
  | _ => none

/-- The instant in universal time that a text with an offset is. -/
def zonedInstant? (s : String) : Option Instant := do
  let (shown, cs) ← readInstant (some ∘ trimStart) s.toList
  let offset ← readOffset cs >>= complete
  if offset.natAbs < 1440 then shown.subOffset? offset else none

end ChartQuery.Calendar
