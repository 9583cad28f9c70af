import ChartQuery.Query.Printer
import ChartQuery.Sql.Function
import ChartQuery.Sql.Select

/-!
# From queries to SQL

The expressions of a query become terms, the tables that its column names refer to are collected,
and only tables that may be read get into the statement.
-/

namespace ChartQuery.Sql

/-! ### Columns and their tables -/

/-- The table and the column of a name with exactly one point. -/
def qualified? (name : String) : Option (String × String) :=
  match Text.split '.' name with
  | [table, column] => some (table, column)
  | _ => none

/-- The column that a name stands for. -/
def columnTerm (name : String) : Term :=
  match qualified? name with
  | some (table, column) => .column (some table) column
  | none => .column none name

/-- The table that a column name refers to; the empty text stands for the default table. -/
def tableOf (name : String) : String :=
  match qualified? name with
  | some (table, _) => table
  | none => ""

/-! ### Expressions -/

/-- An operator with its operands, given its symbol. -/
def applyOperator (d : Dialect) (op : Operator) (symbol : String) (args : List Term) :
    Except Failure Term :=
  match op, args with
  | .pos, [a] => .ok a
  | .neg, [a] => .ok (.before "-" a)
  | .not, [a] => .ok (.before "NOT " a)
  | .isNull, [a] => .ok (.after a " IS NULL")
  | .isNotNull, [a] => .ok (.after a " IS NOT NULL")
  | .pos, _ | .neg, _ | .not, _ | .isNull, _ | .isNotNull, _ =>
    .error (.argumentCount symbol 1 args.length)
  | .contains, _ | .matches, _ | .like, _ | .startsWith, _ | .endsWith, _ =>
    applyFunction d symbol args
  | .and, [a, b] | .or, [a, b] => .ok (.between a (" " ++ symbol.toUpper ++ " ") b)
  | _, [a, b] => .ok (.between a symbol b)
  | _, _ => .error (.argumentCount symbol 2 args.length)

/-- A temporal literal, whose first argument has to be a string. -/
def temporalTerm (kind : TemporalKind) (keyword : String) (args : List Expr) :
    Except Failure Term :=
  match args with
  | ⟨.string, text, _, _⟩ :: _ => .ok (.temporal kind text)
  | _ => .error (.literalWithoutText keyword)

mutual

/-- The term that an expression becomes. -/
def term (d : Dialect) : Expr → Except Failure Term
  | ⟨kind, text, args, emptyCall⟩ =>
    match kind with
    | .number => .ok (.verbatim text)
    | .string => .ok (.string text)
    | .boolean => .ok (.verbatim text.toUpper)
    | .temporal k => temporalTerm k text args
    | .name =>
      if args.isEmpty && !emptyCall then .ok (columnTerm text)
      else do
        let args ← terms d args
        applyFunction d text args
    | .op op => do
      let args ← terms d args
      applyOperator d op text args

/-- The terms that the expressions of a list become. -/
def terms (d : Dialect) : List Expr → Except Failure (List Term)
  | [] => .ok []
  | e :: es => do
    let t ← term d e
    let ts ← terms d es
    .ok (t :: ts)

end

mutual

/-- The names of the columns that the term of an expression reads. -/
def columnNames : Expr → List String
  | ⟨kind, text, args, emptyCall⟩ =>
    match kind with
    | .name => if args.isEmpty && !emptyCall then [text] else columnNamesOfAll args
    | .op _ => columnNamesOfAll args
    | _ => []

/-- The names of the columns that the terms of a list of expressions read. -/
def columnNamesOfAll : List Expr → List String
  | [] => []
  | e :: es => columnNames e ++ columnNamesOfAll es

end

/-! ### Tables -/

/-- The tables that a query may read: one for the columns without a table, and others by name. -/
structure Access where
  defaultTable : String
  allowed : List String

/-- The names of the columns that the statement for a query reads.  The selected expressions of a
query of all columns are not among its items. -/
def readColumns (q : Query) : List String :=
  (if q.star then [] else q.selections.flatMap fun s => columnNames s.expr) ++
  q.filter?.toList.flatMap columnNames ++
  q.pivot ++ q.groupBy ++
  q.orderBy.flatMap fun k => columnNames k.expr

/-- The tables that a query refers to, in ascending order, each once. -/
def readTables (q : Query) : List String :=
  Text.sortedNames ((readColumns q).map tableOf)

/-- The tables of the statement: the default table if it is referred to or nothing is, and the
others, each of which has to be allowed. -/
def tables (d : Dialect) (access : Access) (read : List String) :
    Except Failure (List (List String)) := do
  let usesDefault := read.isEmpty || read.contains "" || read.contains access.defaultTable
  if usesDefault && access.defaultTable.isEmpty then throw .noDefaultTable
  let others := read.filter fun t => !t.isEmpty && t != access.defaultTable
  match others.find? fun t => !access.allowed.contains t with
  | some t => throw (.inaccessibleTable (d.quoteName t))
  | none =>
    return (if usesDefault then [Text.split '.' access.defaultTable] else []) ++ others.map ([·])

/-! ### Statements -/

/-- The columns that a query groups its rows by, those of the pivot first. -/
def groupTerms (q : Query) : List Term :=
  (q.pivot ++ q.groupBy).map columnTerm

/-- The items that a query reads.  A pivoted result begins with the columns grouped by. -/
def items (d : Dialect) (q : Query) : Except Failure (Option (List Term)) :=
  if q.star then .ok none
  else do
    let selected ← terms d (q.selections.map (·.expr))
    .ok (some ((if q.hasPivot then groupTerms q else []) ++ selected))

/-- The statement for a query. -/
def select (d : Dialect) (access : Access) (q : Query) : Except Failure Select := do
  let items? ← items d q
  let filter? ← q.filter?.mapM (term d)
  let orderBy ← q.orderBy.mapM fun k => do
    let t ← term d k.expr
    return (⟨t, k.descending⟩ : Ordering)
  let tables ← tables d access (readTables q)
  return { items?, tables, filter?, groupBy := groupTerms q, orderBy
           limit := q.limit, offset := q.offset }

/-- The text of a query in a dialect.  In the query language it is the query printed back. -/
def compile (d : Dialect) (access : Access) (q : Query) : Except Failure String :=
  match d with
  | .gql => .ok q.toText
  | d => do
    let s ← select d access q
    return s.print d

end ChartQuery.Sql
