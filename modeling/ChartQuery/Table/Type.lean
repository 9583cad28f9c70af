/-!
# Column types

The types that the columns of a result can be shown as.
-/

namespace ChartQuery

/-- The type of a column. -/
inductive ColumnType
  | string
  | boolean
  | number
  | date
  | timeOfDay
  | dateTime
  deriving DecidableEq, Inhabited, Repr

namespace ColumnType

/-- All types, in the order of the columns of the table of display types. -/
def all : List ColumnType := [string, boolean, number, date, timeOfDay, dateTime]

/-- The place of the type among all types. -/
def index : ColumnType → Nat
  | string => 0
  | boolean => 1
  | number => 2
  | date => 3
  | timeOfDay => 4
  | dateTime => 5

/-- The name of the type. -/
def name : ColumnType → String
  | string => "string"
  | boolean => "boolean"
  | number => "number"
  | date => "date"
  | timeOfDay => "timeofday"
  | dateTime => "datetime"

/-- The type with a name. -/
def ofName? (s : String) : Option ColumnType := all.find? fun t => t.name == s

/-- Every type is found by its name. -/
theorem ofName?_name (t : ColumnType) : ofName? t.name = some t := by
  cases t <;> decide

end ColumnType

end ChartQuery
