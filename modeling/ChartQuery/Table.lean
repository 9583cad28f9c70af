import ChartQuery.Failure
import ChartQuery.Table.Type
import ChartQuery.Table.Value

/-!
# Tables

A table of a result: columns, and rows of cells.  Work on a table may stop half way at a failure,
and what it has done until then stays done.
-/

namespace ChartQuery

/-! ### Cells and columns -/

/-- A cell: a value and the text that it is shown as.  Either may be missing, and a missing value
is not the value null. -/
structure Cell where
  value? : Option Value
  text? : Option String
  deriving DecidableEq, Inhabited, Repr

namespace Cell

/-- A cell that holds null. -/
def null : Cell := ⟨some .null, none⟩

/-- The text of a cell: the one that it is shown as, else that of its value. -/
def text (c : Cell) : String :=
  match c.text?, c.value? with
  | some t, _ => t
  | none, some v => v.display
  | none, none => ""

/-- Whether a cell has no value other than null. -/
def isNull (c : Cell) : Bool := (c.value?.map Value.isNull).getD true

/-- The cell in JSON. -/
def toJson (c : Cell) : JsonValue :=
  .object (JsonValue.optional "v" (c.value?.map Value.toJson) ++
    JsonValue.optional "f" (c.text?.map JsonValue.string))

end Cell

/-- A column.  Once a pattern has decided on the type that a column is shown as, `native?` keeps the
type of the data. -/
structure Column where
  id : String
  label : String
  type : ColumnType
  pattern : String
  native? : Option ColumnType
  deriving DecidableEq, Inhabited, Repr

namespace Column

/-- The title of a column: its label, else its identifier. -/
def title (c : Column) : String := if c.label.isEmpty then c.id else c.label

/-- The column in JSON. -/
def toJson (c : Column) : JsonValue :=
  .object ([("id", .string c.id), ("label", .string c.label), ("type", .string c.type.name)] ++
    if c.pattern.isEmpty then [] else [("pattern", .string c.pattern)])

end Column

/-! ### Tables -/

/-- A row. -/
abbrev Row := List Cell

/-- A table.  Nothing keeps a row from being shorter or longer than the list of columns. -/
structure Table where
  columns : List Column
  rows : List Row
  deriving DecidableEq, Inhabited, Repr

namespace Table

/-- The table in JSON. -/
def toJson (t : Table) : JsonValue :=
  .object [("cols", .array (t.columns.map Column.toJson)),
    ("rows", .array (t.rows.map fun r => .object [("c", .array (r.map Cell.toJson))]))]

/-- The titles of the columns. -/
def titles (t : Table) : List String := t.columns.map Column.title

/-- The texts of the cells, row by row. -/
def texts (t : Table) : List (List String) := t.rows.map fun r => r.map Cell.text

/-- The table with one more row. -/
def push (t : Table) (r : Row) : Table := { t with rows := t.rows ++ [r] }

/-- Whether every row has a cell for each column. -/
def isRectangular (t : Table) : Bool := t.rows.all fun r => r.length == t.columns.length

/-- Checks that every row has a cell for each column; the first row without is reported. -/
def checkShape (t : Table) : Except Failure Unit :=
  match t.rows.findIdx? fun r => r.length != t.columns.length with
  | none => .ok ()
  | some i => .error (.rowWidth i (t.rows.getD i []).length t.columns.length)

/-- The table with the texts of all cells removed. -/
def stripTexts (t : Table) : Table :=
  { t with rows := t.rows.map fun r => r.map fun c => { c with text? := none } }

end Table

/-! ### Work that may stop half way -/

/-- Something that work was done on, with the failure that stopped the work, if any. -/
structure Progress (α : Type) where
  value : α
  failure? : Option Failure

namespace Progress

/-- Work that came to its end. -/
def done {α : Type} (a : α) : Progress α := ⟨a, none⟩

/-- Work that was stopped. -/
def stopped {α : Type} (a : α) (f : Failure) : Progress α := ⟨a, some f⟩

/-- The result if the work came to its end. -/
def toExcept {α : Type} (p : Progress α) : Except Failure α :=
  match p.failure? with
  | none => .ok p.value
  | some f => .error f

/-- Where only a result counts, work is taken for it. -/
instance {α : Type} : Coe (Progress α) (Except Failure α) := ⟨toExcept⟩

/-- The same work on a part of something larger. -/
def map {α β : Type} (f : α → β) (p : Progress α) : Progress β := ⟨f p.value, p.failure?⟩

/-- More work, unless the work was stopped. -/
def andThen {α : Type} (p : Progress α) (next : α → Progress α) : Progress α :=
  match p.failure? with
  | none => next p.value
  | some _ => p

/-- Works on the elements of a list in order; the elements after the first failure stay as they
were, and so does the one that failed. -/
def each {α : Type} (f : α → Except Failure α) : List α → Progress (List α)
  | [] => done []
  | a :: as =>
    match f a with
    | .error e => stopped (a :: as) e
    | .ok b => (each f as).map (b :: ·)

end Progress

end ChartQuery
