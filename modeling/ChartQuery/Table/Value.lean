import ChartQuery.Json.Value

/-!
# Values

The values of the cells of a table.  Dates and instants come from a source as text or as
milliseconds since 1970, times of day as milliseconds since midnight; shown, they are texts
`Date(...)` and quadruples of hour, minute, second and millisecond.
-/

namespace ChartQuery

/-- The value of a cell. -/
inductive Value
  | null
  | bool (b : Bool)
  | int (n : Int)
  | uint (n : Nat)
  | float (x : Binary64)
  | string (s : String)
  | timeOfDay (hour minute second milli : Nat)
  deriving DecidableEq, Inhabited, Repr

namespace Value

/-- Whether the value is null. -/
def isNull (v : Value) : Bool := v == null

/-- The quadruple of a time of day. -/
def quadruple (hour minute second milli : Nat) : String :=
  "[" ++ ",".intercalate ([hour, minute, second, milli].map toString) ++ "]"

/-- The plain text of a value. -/
def display : Value → String
  | null => ""
  | bool b => if b then "true" else "false"
  | int n => toString n
  | uint n => toString n
  | float x => x.display
  | string s => s
  | timeOfDay h m s ms => quadruple h m s ms

/-- The value in JSON. -/
def toJson : Value → JsonValue
  | null => .null
  | bool b => .bool b
  | int n => .ofInt n
  | uint n => .ofInt n
  | float x => .ofBinary64 x
  | string s => .string s
  | timeOfDay h m s ms => .array ([h, m, s, ms].map fun n : Nat => .ofInt n)

end Value

end ChartQuery
