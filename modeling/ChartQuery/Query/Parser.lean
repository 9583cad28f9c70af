import ChartQuery.Expr.Arity
import ChartQuery.Expr.Parser
import ChartQuery.Expr.Printer
import ChartQuery.Query
import ChartQuery.Token.Scan

/-!
# Reading queries

A query is a sequence of clauses, each of them optional, in a fixed order.  Labels and formats are
bound to the selected expressions that they repeat.
-/

namespace ChartQuery.Query

open Token (first expect)

/-! ### Lists and clauses -/

/-- Reads items with commas between them, at least one, in at most so many items. -/
def readSeparated {α : Type} (item : List Token → Except Failure (Parsed α)) :
    Nat → List Token → Except Failure (Parsed (List α))
  | 0, ts => .error (.unexpected (first ts))
  | n + 1, ts => do
    let (a, ts) ← item ts
    if (first ts).kind = .comma then do
      let (as, ts) ← readSeparated item n ts.tail
      .ok (a :: as, ts)
    else .ok ([a], ts)

/-- Reads items with commas between them, at least one. -/
def separated {α : Type} (item : List Token → Except Failure (Parsed α)) (ts : List Token) :
    Except Failure (Parsed (List α)) :=
  readSeparated item (ts.length + 1) ts

/-- Reads a clause that begins with a keyword; without the keyword the clause is absent. -/
def clause {α : Type} (keyword : Token.Kind) (absent : α)
    (body : List Token → Except Failure (Parsed α)) (ts : List Token) :
    Except Failure (Parsed α) :=
  if (first ts).kind = keyword then body ts.tail else .ok (absent, ts)

/-- Reads the word `by` and then the body of a clause. -/
def afterBy {α : Type} (body : List Token → Except Failure (Parsed α)) (ts : List Token) :
    Except Failure (Parsed α) := do
  let (_, ts) ← expect .kwBy ts
  body ts

/-! ### Bodies of the clauses -/

/-- A star, or expressions. -/
def selectList (ts : List Token) : Except Failure (Parsed (Option (List Expr))) :=
  if (first ts).kind = .times then .ok (none, ts.tail)
  else do
    let (es, ts) ← separated Expr.parse ts
    .ok (some es, ts)

/-- An expression to filter by. -/
def condition (ts : List Token) : Except Failure (Parsed (Option Expr)) := do
  let (e, ts) ← Expr.parse ts
  .ok (some e, ts)

/-- The name of a column. -/
def columnName (ts : List Token) : Except Failure (Parsed String) := do
  let (t, ts) ← expect .identifier ts
  .ok (t.text, ts)

/-- A sort key; the direction may follow it. -/
def sortKey (ts : List Token) : Except Failure (Parsed SortKey) := do
  let (e, ts) ← Expr.parse ts
  match (first ts).kind with
  | .kwDesc => .ok (⟨e, true⟩, ts.tail)
  | .kwAsc => .ok (⟨e, false⟩, ts.tail)
  | _ => .ok (⟨e, false⟩, ts)

/-- The number that a text of digits stands for, if it fits into 64 bits. -/
def natural? (text : String) : Option Nat :=
  let digits := text.toList
  if !digits.isEmpty && digits.all Char.isDigit then
    let n := digits.foldl (fun n c => 10 * n + (c.toNat - 48)) 0
    if n < Nat.pow 2 64 then some n else none
  else none

/-- A number of rows. -/
def count (ts : List Token) : Except Failure (Parsed Nat) := do
  let (t, ts) ← expect .number ts
  match natural? t.text with
  | some n => .ok (n, ts)
  | none => .error (.expected .integer t)

/-- An entry of an attaching clause: an expression, which has to be selected unless all columns
are, and a text. -/
def entry (which : Attachment) (selected? : Option (List Expr)) (ts : List Token) :
    Except Failure (Parsed (Expr × String)) := do
  let (e, rest) ← Expr.parse ts
  let (t, rest) ← expect .string rest
  match selected? with
  | none => .ok ((e, t.text), rest)
  | some es =>
    if es.contains e then .ok ((e, t.text), rest)
    else .error (.notSelected which (first ts).pos e.toText)

/-- The two options. -/
inductive Flag
  | noFormat
  | noValues
  deriving DecidableEq, Repr

/-- An option. -/
def flag : List Token → Except Failure (Parsed Flag)
  | [] => .error (.expected .option .blank)
  | t :: ts =>
    if t.isWord "no_format" then .ok (.noFormat, ts)
    else if t.isWord "no_values" then .ok (.noValues, ts)
    else .error (.expected .option t)

/-! ### Attaching -/

/-- The selection with a text attached. -/
def Selection.attach (which : Attachment) (text : String) (s : Selection) : Selection :=
  match which with
  | .label => { s with label? := some text }
  | .format => { s with format? := some text }

/-- Attaches a text to the first selection of the expression.  A label of a query of all columns
is always an entry of its own, and so is anything else that is not among the entries yet. -/
def attach (which : Attachment) (star : Bool) (selections : List Selection)
    (entry : Expr × String) : List Selection :=
  let found := if which = .label ∧ star then none else
    selections.findIdx? (·.expr == entry.1)
  match found with
  | some i => selections.modify i (Selection.attach which entry.2)
  | none => selections ++ [Selection.attach which entry.2 (.ofExpr entry.1)]

/-! ### Queries -/

/-- What the clauses of a query hold, with labels and formats not attached yet.  Without
`selected?` all columns are selected. -/
structure Clauses where
  selected? : Option (List Expr)
  filter? : Option Expr
  groupBy : List String
  pivot : List String
  orderBy : List SortKey
  limit : Nat
  offset : Nat
  labels : List (Expr × String)
  formats : List (Expr × String)
  flags : List Flag
  deriving DecidableEq

/-- Reads all clauses up to the end of the text. -/
def clauses (ts : List Token) : Except Failure Clauses := do
  let (selected?, ts) ← clause .kwSelect none selectList ts
  let (filter?, ts) ← clause .kwWhere none condition ts
  let (groupBy, ts) ← clause .kwGroup [] (afterBy (separated columnName)) ts
  let (pivot, ts) ← clause .kwPivot [] (separated columnName) ts
  let (orderBy, ts) ← clause .kwOrder [] (afterBy (separated sortKey)) ts
  let (limit, ts) ← clause .kwLimit 0 count ts
  let (offset, ts) ← clause .kwOffset 0 count ts
  let (labels, ts) ← clause .kwLabel [] (separated (entry .label selected?)) ts
  let (formats, ts) ← clause .kwFormat [] (separated (entry .format selected?)) ts
  let (flags, ts) ← clause .kwOptions [] (separated flag) ts
  let _ ← expect .endOfText ts
  return { selected?, filter?, groupBy, pivot, orderBy, limit, offset, labels, formats, flags }

/-- The selections that clauses make up: labels are attached first, then formats. -/
def Clauses.selections (c : Clauses) : List Selection :=
  let star := c.selected?.isNone
  let selections := (c.selected?.getD []).map Selection.ofExpr
  let selections := c.labels.foldl (attach .label star) selections
  c.formats.foldl (attach .format star) selections

/-- The query that clauses make up. -/
def Clauses.toQuery (c : Clauses) : Query where
  star := c.selected?.isNone
  selections := c.selections
  filter? := c.filter?
  groupBy := c.groupBy
  pivot := c.pivot
  orderBy := c.orderBy
  limit := c.limit
  offset := c.offset
  noFormat := c.flags.contains .noFormat
  noValues := c.flags.contains .noValues
  extended := false

/-- Reads a whole text as a query, without a check of the numbers of arguments. -/
def parseUnchecked (text : String) : Except Failure Query := do
  let c ← clauses (Token.tokenize text)
  return c.toQuery

/-- Checks the numbers of arguments of the selected expressions, the filter and the sort keys. -/
def checkArity (q : Query) : Except Failure Unit := do
  q.selections.forM (·.expr.checkArity)
  q.filter?.forM Expr.checkArity
  q.orderBy.forM (·.expr.checkArity)

/-- Reads a whole text as a query.  An extended query may call any function with any arguments. -/
def parse (text : String) (extended : Bool) : Except Failure Query := do
  let q ← parseUnchecked text
  let q := { q with extended }
  if extended then return q
  else do
    q.checkArity
    return q

end ChartQuery.Query
