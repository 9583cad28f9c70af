import ChartQuery.Calendar.Reading
import ChartQuery.Numeric.Numeral
import ChartQuery.Table.Type
import ChartQuery.Table.Value

/-!
# PostgreSQL types

The types of the columns that a PostgreSQL database answers with, and the values that its texts
stand for.  Dates and instants become milliseconds since 1970, times of day milliseconds since
midnight.  A text that stands for no value of its type is kept as it is.
-/

namespace ChartQuery

/-- The type of a column of the database, as far as its texts are read differently. -/
inductive PostgresType
  | boolean
  | integer
  | real
  | date
  | timestamp
  | zonedTimestamp
  | time
  | other
  deriving DecidableEq, Inhabited, Repr

namespace PostgresType

/-- The type with a name of the database. -/
def ofName : String → PostgresType
  | "bool" => boolean
  | "int2" | "int4" | "int8" | "oid" => integer
  | "float4" | "float8" | "numeric" => real
  | "date" => date
  | "timestamp" => timestamp
  | "timestamptz" => zonedTimestamp
  | "time" => time
  | _ => other

/-- The type that a column is shown as. -/
def columnType : PostgresType → ColumnType
  | boolean => .boolean
  | integer | real => .number
  | date => .date
  | timestamp | zonedTimestamp => .dateTime
  | time => .timeOfDay
  | other => .string

/-- The value of an instant. -/
def millis (i : Instant) : Value := .int i.epochMillis

/-- The value that a text stands for, if there is one other than the text. -/
def value? : PostgresType → String → Option Value
  | boolean, "t" => some (.bool true)
  | boolean, "f" => some (.bool false)
  | boolean, _ => none
  | integer, s => (Numeral.integer? 64 s).map Value.int
  | real, s => (Numeral.binary64? s).map Value.float
  | date, s => (Calendar.date? s).map fun d => millis (.ofDate d)
  | timestamp, s => (Calendar.instant? s).map millis
  | zonedTimestamp, s => (Calendar.zonedInstant? s).map millis
  | time, s => (Calendar.clock? s).map fun c => .int c.millisOfDay
  | other, _ => none

/-- The value of a text. -/
def read (t : PostgresType) (s : String) : Value := (t.value? s).getD (.string s)

end PostgresType

end ChartQuery
