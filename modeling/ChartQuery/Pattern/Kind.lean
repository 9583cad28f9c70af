import ChartQuery.Failure
import ChartQuery.Pattern.Date
import ChartQuery.Pattern.Number
import ChartQuery.Table.Type

/-!
# Kinds of patterns

A text may be a pattern for truth values, for numbers, for dates and for times of day, and for
several of these at once.  What it is a pattern for decides, with the type of a column, on the type
that the column is shown as.
-/

namespace ChartQuery

/-- What a text is a pattern for. -/
structure PatternKinds where
  boolean : Bool
  number : Bool
  date : Bool
  time : Bool
  deriving DecidableEq, Repr

namespace PatternKinds

/-! ### Classification -/

/-- A pattern for truth values has exactly one colon, between the text for true and that for
false. -/
def isBoolean (pattern : String) : Bool := pattern.toList.count ':' == 1

/-- Whether a text holds a letter for a field of the date, be it in quotes or not. -/
def hasDateFields (pattern : String) : Bool :=
  pattern.toList.any fun c => ((DateField.ofLetter? c).map DateField.isOfDate).getD false

/-- Whether a text holds a letter for a field of the time of day, be it in quotes or not. -/
def hasTimeFields (pattern : String) : Bool :=
  pattern.toList.any fun c => ((DateField.ofLetter? c).map (!·.isOfDate)).getD false

/-- What a text is a pattern for. -/
def ofText (pattern : String) : PatternKinds :=
  let temporal := (DatePattern.parse? pattern).isSome
  { boolean := isBoolean pattern
    number := (NumberPattern.parse? pattern).isSome
    date := temporal && hasDateFields pattern
    time := temporal && hasTimeFields pattern }

/-- The kinds as a number: one for truth values, two for numbers, four for dates, eight for times of
day. -/
def mask (k : PatternKinds) : Nat :=
  k.boolean.toNat + 2 * k.number.toNat + 4 * k.date.toNat + 8 * k.time.toNat

/-- What a text is a pattern for; a text that is no pattern at all is refused. -/
def classify (pattern : String) : Except Failure PatternKinds :=
  let k := ofText pattern
  if k.mask = 0 then .error (.unreadablePattern pattern) else .ok k

/-! ### Display types -/

/-- The types that columns are shown as: a row for each mask, with an entry for each type in their
order.  The first row belongs to no pattern. -/
def displayTypes : List (List ColumnType) :=
  [[.string, .string, .string, .string, .string, .string],
   [.boolean, .boolean, .boolean, .boolean, .boolean, .boolean],
   [.number, .number, .number, .number, .number, .number],
   [.boolean, .boolean, .boolean, .boolean, .boolean, .boolean],
   [.date, .boolean, .date, .date, .date, .date],
   [.boolean, .boolean, .boolean, .boolean, .boolean, .boolean],
   [.date, .number, .number, .date, .timeOfDay, .dateTime],
   [.date, .boolean, .number, .date, .timeOfDay, .dateTime],
   [.timeOfDay, .timeOfDay, .timeOfDay, .date, .timeOfDay, .dateTime],
   [.boolean, .boolean, .boolean, .boolean, .boolean, .boolean],
   [.timeOfDay, .number, .number, .timeOfDay, .timeOfDay, .timeOfDay],
   [.timeOfDay, .boolean, .number, .timeOfDay, .timeOfDay, .timeOfDay],
   [.dateTime, .dateTime, .dateTime, .dateTime, .dateTime, .dateTime],
   [.dateTime, .boolean, .dateTime, .dateTime, .dateTime, .dateTime],
   [.dateTime, .number, .number, .dateTime, .dateTime, .dateTime],
   [.dateTime, .boolean, .boolean, .dateTime, .dateTime, .dateTime]]

/-- The type that a column of some type is shown as under a pattern. -/
def displayType (k : PatternKinds) (native : ColumnType) : ColumnType :=
  (displayTypes.getD k.mask []).getD native.index .string

end PatternKinds

end ChartQuery
