import ChartQuery.Calendar.Instant
import ChartQuery.Numeric.Decimal

/-!
# Date patterns

A date pattern is text with runs of letters for the fields of an instant: `yyyy` is the year with
four digits, `MMM` the short name of the month.  Text between single quotes stands for itself, two
single quotes for one.  The names are English and the zone is universal time.
-/

namespace ChartQuery

open Numeric

/-! ### Fields -/

/-- The fields of an instant that a letter can stand for. -/
inductive DateField
  | era
  | year
  | weekYear
  | plainYear
  | quarter
  | month
  | day
  | dayOfYear
  | weekdayInMonth
  | weekOfYear
  | weekOfMonth
  | dayCount
  | weekdayName
  | weekdayNumber
  | halfDay
  | hourOfHalf
  | hour
  | hourFromOne
  | hourOfHalfFromZero
  | minute
  | second
  | fraction
  | millisOfDay
  | zoneName
  | zoneOffset
  deriving DecidableEq, Repr

namespace DateField

/-- The field that a letter stands for. -/
def ofLetter? : Char → Option DateField
  | 'G' => some era
  | 'y' => some year
  | 'Y' => some weekYear
  | 'u' => some plainYear
  | 'Q' | 'q' => some quarter
  | 'M' | 'L' => some month
  | 'd' => some day
  | 'D' => some dayOfYear
  | 'F' => some weekdayInMonth
  | 'w' => some weekOfYear
  | 'W' => some weekOfMonth
  | 'g' => some dayCount
  | 'E' => some weekdayName
  | 'e' | 'c' => some weekdayNumber
  | 'a' => some halfDay
  | 'h' => some hourOfHalf
  | 'H' => some hour
  | 'k' => some hourFromOne
  | 'K' => some hourOfHalfFromZero
  | 'm' => some minute
  | 's' => some second
  | 'S' => some fraction
  | 'A' => some millisOfDay
  | 'z' | 'v' | 'V' => some zoneName
  | 'Z' => some zoneOffset
  | _ => none

/-- Whether the field is one of the date; the others are of the time of day. -/
def isOfDate : DateField → Bool
  | era | year | weekYear | plainYear | quarter | month | day | dayOfYear | weekdayInMonth
  | weekOfYear | weekOfMonth | dayCount | weekdayName | weekdayNumber => true
  | _ => false

/-! ### Fields as text -/

/-- The names of the months. -/
def monthNames : List String :=
  ["January", "February", "March", "April", "May", "June", "July", "August", "September",
   "October", "November", "December"]

/-- The names of the days of the week. -/
def weekdayNames : List String :=
  ["Sunday", "Monday", "Tuesday", "Wednesday", "Thursday", "Friday", "Saturday"]

/-- A name in the length that a number of letters asks for: four letters are the full name, five the
first letter of it, more the first two letters, and fewer the first three. -/
def abbreviated (name : String) (count : Nat) : List Char :=
  if count ≤ 3 then name.toList.take 3
  else if count = 4 then name.toList
  else if count = 5 then name.toList.take 1
  else name.toList.take 2

/-- The quarter of a date, from one. -/
def quarterOf (d : Date) : Nat := (d.month - 1) / 3 + 1

/-- The quarter as a number, with the letter Q, or in words. -/
def quarterText (quarter count : Nat) : List Char :=
  if count ≤ 2 then padded count quarter
  else if count = 3 then 'Q' :: digits quarter
  else
    let ordinal := ["1st", "2nd", "3rd", "4th"].getD (quarter - 1) ""
    (ordinal ++ " quarter").toList

/-- A year; two letters ask for its last two digits. -/
def yearText (year : Int) (count : Nat) : List Char :=
  if count = 2 then paddedInt 2 (year % 100) else paddedInt count year

/-- The number of the week of its month in which a date lies; weeks begin with Sunday. -/
def weekOfMonthOf (d : Date) : Nat :=
  let weekdayOfFirst := ((d.number - d.day + 1) % 7).toNat
  (d.day - 1 + weekdayOfFirst) / 7 + 1

/-- The milliseconds of a second, cut off or continued with zeros after so many digits. -/
def fractionText (millis count : Nat) : List Char :=
  (padded 3 millis ++ List.replicate (count - 3) '0').take count

/-- A field of an instant, written with so many letters. -/
def text (f : DateField) (count : Nat) (i : Instant) : List Char :=
  let d := i.date
  let c := i.clock
  match f with
  | era => if 0 < d.year then ['A', 'D'] else ['B', 'C']
  | year => yearText d.year count
  | weekYear => yearText d.isoWeek.1 count
  | plainYear => paddedInt count d.year
  | quarter => quarterText (quarterOf d) count
  | month =>
    if count ≤ 2 then padded count d.month
    else abbreviated (monthNames.getD (d.month - 1) "") count
  | day => padded count d.day
  | dayOfYear => padded count d.ordinal
  | weekdayInMonth => padded count ((d.day - 1) / 7 + 1)
  | weekOfYear => padded count d.isoWeek.2
  | weekOfMonth => padded count (weekOfMonthOf d)
  | dayCount => paddedInt count (d.number + 1721425)
  | weekdayName => abbreviated (weekdayNames.getD d.weekday "") count
  | weekdayNumber =>
    if count ≤ 2 then padded count (d.weekday + 1)
    else abbreviated (weekdayNames.getD d.weekday "") count
  | halfDay => if c.hour < 12 then ['A', 'M'] else ['P', 'M']
  | hourOfHalf => padded count (if c.hour % 12 = 0 then 12 else c.hour % 12)
  | hour => padded count c.hour
  | hourFromOne => padded count (if c.hour = 0 then 24 else c.hour)
  | hourOfHalfFromZero => padded count (c.hour % 12)
  | minute => padded count c.minute
  | second => padded count c.second
  | fraction => fractionText c.shownMillis count
  | millisOfDay => padded count (1000 * c.seconds + c.shownMillis)
  | zoneName =>
    (if 4 ≤ count then "Coordinated Universal Time" else "UTC").toList
  | zoneOffset =>
    (if count = 4 then "GMT" else if count = 5 then "Z" else "+0000").toList

end DateField

/-! ### Patterns -/

/-- A piece of a date pattern: a character that stands for itself, or a field with the number of its
letters. -/
inductive DatePattern.Item
  | literal (c : Char)
  | field (f : DateField) (count : Nat)
  deriving DecidableEq, Repr

/-- A date pattern. -/
structure DatePattern where
  items : List DatePattern.Item
  deriving DecidableEq, Repr

namespace DatePattern

/-- The single quote, between two of which text stands for itself. -/
def quote : Char := '\x27'

/-- Reads the pieces of a pattern.  Every letter outside of quotes has to be that of a field, and a
quoted text has to end. -/
def readItems (quoted : Bool) : List Char → Option (List Item)
  | [] => if quoted then none else some []
  | '\x27' :: '\x27' :: cs => (readItems quoted cs).map (.literal quote :: ·)
  | c :: cs =>
    if c = quote then readItems (!quoted) cs
    else if quoted || !c.isAlpha then (readItems quoted cs).map (.literal c :: ·)
    else
      match DateField.ofLetter? c with
      | none => none
      | some f =>
        let more := cs.takeWhile (· == c)
        (readItems quoted (cs.dropWhile (· == c))).map (.field f (more.length + 1) :: ·)
termination_by cs => cs.length
decreasing_by
  all_goals simp only [List.length_cons]
  all_goals first
    | omega
    | exact Nat.lt_succ_of_le (List.dropWhile_suffix _).length_le

/-- The pattern that a text describes. -/
def parse? (pattern : String) : Option DatePattern :=
  (readItems false pattern.toList).map (⟨·⟩)

/-- A piece of a pattern for an instant. -/
def Item.text (i : Instant) : Item → List Char
  | literal c => [c]
  | field f count => f.text count i

/-- The text of an instant. -/
def format (p : DatePattern) (i : Instant) : String :=
  String.ofList (p.items.flatMap (Item.text i))

end DatePattern

end ChartQuery
