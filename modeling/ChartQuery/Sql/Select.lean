import ChartQuery.Sql.Term

/-!
# Statements of SQL

The statement that a query becomes, as data, and its text.
-/

namespace ChartQuery.Sql

/-- A sort key with its direction. -/
structure Ordering where
  term : Term
  descending : Bool

/-- A statement that reads rows.  Without `items` it reads all columns; a table is given by the
parts of its name; a limit or an offset of zero is none. -/
structure Select where
  items? : Option (List Term)
  tables : List (List String)
  filter? : Option Term
  groupBy : List Term
  orderBy : List Ordering
  limit : Nat
  offset : Nat

namespace Select

/-- Items with a comma and a blank between them. -/
def commaSeparated (items : List String) : String := ", ".intercalate items

/-- The name of a table, quoted part by part. -/
def printTable (d : Dialect) (parts : List String) : String :=
  ".".intercalate (parts.map d.quoteName)

/-- A sort key; only the descending direction is written. -/
def printOrdering (d : Dialect) (o : Ordering) : String :=
  if o.descending then o.term.print d ++ " DESC" else o.term.print d

/-- The largest number of rows that MySQL counts; an offset needs a limit there. -/
def greatestLimit : Nat := Nat.pow 2 64 - 1

/-- The clauses that cut out a range of rows. -/
def printRange (d : Dialect) (limit offset : Nat) : List String :=
  if d = .mySql then
    if offset = 0 then if limit = 0 then [] else ["LIMIT " ++ toString limit]
    else ["LIMIT " ++ toString offset ++ ", " ++
      toString (if limit = 0 then greatestLimit else limit)]
  else
    (if limit = 0 then [] else ["LIMIT " ++ toString limit]) ++
      (if offset = 0 then [] else ["OFFSET " ++ toString offset])

/-- A clause with its items, nothing if there are none. -/
def printClause (keyword : String) (items : List String) : List String :=
  if items.isEmpty then [] else [keyword ++ commaSeparated items]

/-- The text of a statement: its clauses with blanks between them. -/
def print (d : Dialect) (s : Select) : String :=
  " ".intercalate <|
    [match s.items? with
      | none => "SELECT *"
      | some items => "SELECT " ++ commaSeparated (items.map (·.print d))] ++
    ["FROM " ++ commaSeparated (s.tables.map (printTable d))] ++
    printClause "WHERE " (s.filter?.toList.map (·.print d)) ++
    printClause "GROUP BY " (s.groupBy.map (·.print d)) ++
    printClause "ORDER BY " (s.orderBy.map (printOrdering d)) ++
    printRange d s.limit s.offset

end Select

end ChartQuery.Sql
