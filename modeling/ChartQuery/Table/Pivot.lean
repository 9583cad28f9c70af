import ChartQuery.Query
import ChartQuery.Table

/-!
# Pivoting

A result to be pivoted begins with the columns of the pivot and those of the groups.  Each distinct
text of the former makes a copy of every remaining column that is not one of the groups, and the
rows of a group are folded into one.
-/

namespace ChartQuery.Table

/-! ### Keys -/

/-- The key of a row in a pivot: the texts of its first cells with commas between them. -/
def pivotKey (n : Nat) (r : Row) : String := ",".intercalate ((r.take n).map Cell.text)

/-- The key of the group of a row: the texts of the cells of the groups, each after a tab. -/
def groupKey (n m : Nat) (r : Row) : String :=
  String.join (((r.drop n).take m).map fun c => "\t" ++ c.text)

/-! ### Columns -/

/-- A copy of a column for a key. -/
def pivotColumn (c : Column) (key : String) : Column :=
  { c with id := key ++ " " ++ c.id, label := key ++ " " ++ c.title }

/-- The columns of the pivoted table: those of the groups once, the others once for each key. -/
def pivotColumns (groups keys : List String) (cs : List Column) : List Column :=
  cs.flatMap fun c => if groups.contains c.id then [c] else keys.map (pivotColumn c)

/-! ### Rows -/

/-- The cells of a new row: those of the groups, and places for the others. -/
def freshCells (width : Nat) : List Bool → Row → Row
  | isGroup :: marks, c :: cs =>
    (if isGroup then [c] else List.replicate width .null) ++ freshCells width marks cs
  | _, _ => []

/-- The cells of a row with the cells of a source row put to the places of its key. -/
def placeCells (width offset : Nat) : List Bool → Row → Row → Row
  | isGroup :: marks, c :: cs, out =>
    if isGroup then out.take 1 ++ placeCells width offset marks cs (out.drop 1)
    else
      (out.take width).set offset c ++ placeCells width offset marks cs (out.drop width)
  | _, _, out => out

/-- Changes the row of a group, which is added at the end if it is not there yet. -/
def updateGroup (key : String) (fresh : Row) (change : Row → Row) :
    List (String × Row) → List (String × Row)
  | [] => [(key, change fresh)]
  | (k, r) :: rs =>
    if k = key then (k, change r) :: rs else (k, r) :: updateGroup key fresh change rs

/-- Folds a row into the rows of the groups, given the numbers of columns of the pivot and of the
groups. -/
def foldRow (n m : Nat) (keys : List String) (marks : List Bool) (groups : List (String × Row))
    (r : Row) : List (String × Row) :=
  let cells := r.drop (n + m)
  updateGroup (groupKey n m r) (freshCells keys.length marks cells)
    (placeCells keys.length (keys.idxOf (pivotKey n r)) marks cells) groups

/-- The pivoted table for a query. -/
def pivoted (q : Query) (t : Table) : Table :=
  let n := q.pivot.length
  let m := q.groupBy.length
  let keys := (t.rows.map (pivotKey n)).eraseDups
  let source := t.columns.drop (n + m)
  let marks := source.map fun c => q.groupBy.contains c.id
  { columns := pivotColumns q.groupBy keys source
    rows := (t.rows.foldl (foldRow n m keys marks) []).map (·.2) }

/-- Pivots a table.  It has to have the columns of the pivot and of the groups, and in every row a
cell for each column; otherwise it stays as it is. -/
def pivot (q : Query) (t : Table) : Progress Table :=
  let needed := q.pivot.length + q.groupBy.length
  if t.columns.length < needed then .stopped t (.pivotWidth needed t.columns.length)
  else
    match t.checkShape with
    | .error f => .stopped t f
    | .ok () => .done (pivoted q t)

end ChartQuery.Table
