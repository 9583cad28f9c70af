import ChartQuery.Expr.Printer
import ChartQuery.Query

/-!
# Queries as text

The clauses are written in their fixed order, keywords in upper case, and an absent clause is not
written.
-/

namespace ChartQuery.Query

/-- Items with a comma and a blank between them. -/
def commaSeparated (items : List String) : String := ", ".intercalate items

/-- A clause with its items, nothing if there are none. -/
def printClause (keyword : String) (items : List String) : String :=
  if items.isEmpty then "" else " " ++ keyword ++ " " ++ commaSeparated items

/-- A clause with a number of rows, nothing for zero. -/
def printCount (keyword : String) (n : Nat) : String :=
  if n = 0 then "" else " " ++ keyword ++ " " ++ toString n

/-- A sort key; only the descending direction is written. -/
def printSortKey (k : SortKey) : String :=
  if k.descending then k.expr.toText ++ " DESC" else k.expr.toText

/-- The selections that have a text attached, each with that text. -/
def printAttached (text? : Selection → Option String) (selections : List Selection) :
    List String :=
  selections.filterMap fun s =>
    (text? s).map fun text => s.expr.toText ++ " " ++ quoteString text

/-- The options that are set. -/
def optionWords (q : Query) : List String :=
  (if q.noFormat then ["no_format"] else []) ++ (if q.noValues then ["no_values"] else [])

/-- The query in the query language. -/
def toText (q : Query) : String :=
  (if q.star then "SELECT *"
    else "SELECT " ++ commaSeparated (q.selections.map (·.expr.toText))) ++
  printClause "WHERE" (q.filter?.toList.map Expr.toText) ++
  printClause "GROUP BY" (q.groupBy.map quoteName) ++
  printClause "PIVOT" (q.pivot.map quoteName) ++
  printClause "ORDER BY" (q.orderBy.map printSortKey) ++
  printCount "LIMIT" q.limit ++
  printCount "OFFSET" q.offset ++
  printClause "LABEL" (printAttached (·.label?) q.selections) ++
  printClause "FORMAT" (printAttached (·.format?) q.selections) ++
  printClause "OPTIONS" q.optionWords

end ChartQuery.Query
