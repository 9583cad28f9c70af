import ChartQuery.Failure
import ChartQuery.Text.Split

/-!
# Dialects

The languages into which a query can be put: the query language itself and two dialects of SQL.
-/

namespace ChartQuery

/-- A language that a query can be put into. -/
inductive Dialect
  | gql
  | mySql
  | postgreSql
  deriving DecidableEq, Inhabited, Repr

namespace Dialect

/-- The name of the dialect. -/
def name : Dialect → String
  | gql => "gql"
  | mySql => "mysql"
  | postgreSql => "postgresql"

/-- The dialect that a word stands for, in any mixture of ASCII cases. -/
def ofText (s : String) : Except Failure Dialect :=
  match s.toLower with
  | "gql" | "identity" => .ok gql
  | "mysql" | "mariadb" => .ok mySql
  | "postgresql" | "postgres" | "pgsql" => .ok postgreSql
  | other => .error (.unknownDialect other)

/-- Every dialect is read back from its name. -/
theorem ofText_name (d : Dialect) : ofText d.name = .ok d := by
  have hlower : d.name.toLower = d.name := by cases d <;> decide +kernel
  rw [ofText, hlower]
  cases d <;> rfl

/-- The character that quotes a name. -/
def quoteChar : Dialect → Char
  | postgreSql => '\x22'
  | gql | mySql => '\x60'

/-- A name between quotes, with the quotes in it doubled. -/
def quoteName (d : Dialect) (name : String) : String :=
  let q := String.ofList [d.quoteChar]
  q ++ Text.doubled d.quoteChar name ++ q

/-- A table name, of which the parts between points are quoted one by one. -/
def quoteTable (d : Dialect) (name : String) : String :=
  ".".intercalate ((Text.split '.' name).map d.quoteName)

end Dialect

/-- A string literal of SQL: between single quotes, with those in it doubled. -/
def quoteSqlString (text : String) : String :=
  "'" ++ Text.doubled '\x27' text ++ "'"

end ChartQuery
