import ChartQuery.Expr
import ChartQuery.Sql.Dialect

/-!
# Terms of SQL

The expressions of the generated SQL as trees, and their text.  Strings and names are kept apart
from all that is written as it stands, so that quoting happens in one place.
-/

namespace ChartQuery.Sql

/-- An expression of SQL. -/
inductive Term
  /-- A number or a truth value, as written. -/
  | verbatim (text : String)
  /-- A string literal with the given contents. -/
  | string (text : String)
  /-- A column, with the table it is looked up in if one is named. -/
  | column (table? : Option String) (name : String)
  /-- A literal that denotes a date, a time or both. -/
  | temporal (kind : TemporalKind) (text : String)
  /-- An operator before its operand, in parentheses. -/
  | before (symbol : String) (operand : Term)
  /-- An operator after its operand, in parentheses. -/
  | after (operand : Term) (symbol : String)
  /-- An operator between its operands, in parentheses. -/
  | between (left : Term) (symbol : String) (right : Term)
  /-- A function with its arguments, which the text `comma` separates. -/
  | apply (function comma : String) (args : List Term)
  /-- The place of the first term in the second. -/
  | position (needle haystack : Term)
  /-- A field of an instant. -/
  | extract (field : String) (instant : Term)
  /-- A number without its fraction. -/
  | integral (operand : Term)
  /-- A term in parentheses. -/
  | group (operand : Term)

namespace Term

/-- A function with its arguments, a comma and a blank between them. -/
def call (function : String) (args : List Term) : Term := apply function ", " args

/-- A function with its arguments, a comma between them. -/
def tightCall (function : String) (args : List Term) : Term := apply function "," args

/-- A literal that denotes a date, a time or both.  MySQL has to be told the number of fractional
digits of an instant. -/
def printTemporal (d : Dialect) (kind : TemporalKind) (text : String) : String :=
  match kind with
  | .date => "DATE " ++ quoteSqlString text
  | .timeOfDay => "TIME " ++ quoteSqlString text
  | .dateTime =>
    if d = .mySql then "CONVERT(" ++ quoteSqlString text ++ ", DATETIME(3))"
    else "TIMESTAMP " ++ quoteSqlString text

mutual

/-- The text of a term. -/
def print (d : Dialect) : Term → String
  | verbatim text => text
  | string text => quoteSqlString text
  | column none name => d.quoteName name
  | column (some table) name => d.quoteName table ++ "." ++ d.quoteName name
  | temporal kind text => printTemporal d kind text
  | before symbol e => "(" ++ symbol ++ print d e ++ ")"
  | after e symbol => "(" ++ print d e ++ symbol ++ ")"
  | between l symbol r => "(" ++ print d l ++ symbol ++ print d r ++ ")"
  | apply f comma args => f ++ "(" ++ comma.intercalate (printAll d args) ++ ")"
  | position n h => "POSITION(" ++ print d n ++ " IN " ++ print d h ++ ")"
  | extract field e => "EXTRACT(" ++ field ++ " FROM " ++ print d e ++ ")"
  | integral e => print d e ++ "::int"
  | group e => "(" ++ print d e ++ ")"

/-- The texts of the terms of a list. -/
def printAll (d : Dialect) : List Term → List String
  | [] => []
  | e :: es => print d e :: printAll d es

end

/-- A list is printed term by term. -/
theorem printAll_eq_map (d : Dialect) (es : List Term) : printAll d es = es.map (print d) := by
  induction es with
  | nil => rfl
  | cons e es ih => simp [printAll, ih]

end Term

end ChartQuery.Sql
