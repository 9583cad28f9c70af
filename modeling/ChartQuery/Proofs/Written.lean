import ChartQuery.Proofs.Unsigned
import ChartQuery.Query.Parser
import ChartQuery.Query.Printer

/-!
# Queries as clauses

A query is written as clauses: `Query.written` is what they hold, with the labels and formats of the
selections collected again, and `Clauses.toText` is their text, which is that of the query.  The
unsigned forms of all expressions may be taken without a change of the text.
-/

namespace ChartQuery.Query

/-! ## Clauses and their text -/

/-- The unsigned form of a sort key. -/
def unsignedKey (k : SortKey) : SortKey := ⟨k.expr.unsigned, k.descending⟩

/-- The unsigned form of an entry of an attaching clause. -/
def unsignedEntry (x : Expr × String) : Expr × String := (x.1.unsigned, x.2)

/-- The clauses with the unsigned forms of all expressions. -/
def Clauses.unsigned (c : Clauses) : Clauses :=
  { c with
    selected? := c.selected?.map (·.map Expr.unsigned)
    filter? := c.filter?.map Expr.unsigned
    orderBy := c.orderBy.map unsignedKey
    labels := c.labels.map unsignedEntry
    formats := c.formats.map unsignedEntry }

/-- An entry of an attaching clause as it is written. -/
def printEntry (x : Expr × String) : String := x.1.toText ++ " " ++ quoteString x.2

/-- An option as it is written. -/
def Flag.word : Flag → String
  | .noFormat => "no_format"
  | .noValues => "no_values"

/-- What is selected as it is written. -/
def printSelected : Option (List Expr) → String
  | none => "SELECT *"
  | some es => "SELECT " ++ commaSeparated (es.map Expr.toText)

/-- The text of clauses. -/
def Clauses.toText (c : Clauses) : String :=
  printSelected c.selected? ++
  printClause "WHERE" (c.filter?.toList.map Expr.toText) ++
  printClause "GROUP BY" (c.groupBy.map quoteName) ++
  printClause "PIVOT" (c.pivot.map quoteName) ++
  printClause "ORDER BY" (c.orderBy.map printSortKey) ++
  printCount "LIMIT" c.limit ++
  printCount "OFFSET" c.offset ++
  printClause "LABEL" (c.labels.map printEntry) ++
  printClause "FORMAT" (c.formats.map printEntry) ++
  printClause "OPTIONS" (c.flags.map Flag.word)

/-- The text that is attached to a selection as its label or its format. -/
def Selection.text? (which : Attachment) (s : Selection) : Option String :=
  match which with
  | .label => s.label?
  | .format => s.format?

/-- The expressions that have a text attached, each with that text, in their order. -/
def attached (which : Attachment) (selections : List Selection) : List (Expr × String) :=
  selections.filterMap fun s => (Selection.text? which s).map fun text => (s.expr, text)

/-- The options that are set. -/
def flags (q : Query) : List Flag :=
  (if q.noFormat then [.noFormat] else []) ++ (if q.noValues then [.noValues] else [])

/-- The clauses that a query is written as. -/
def written (q : Query) : Clauses where
  selected? := if q.star then none else some (q.selections.map (·.expr))
  filter? := q.filter?
  groupBy := q.groupBy
  pivot := q.pivot
  orderBy := q.orderBy
  limit := q.limit
  offset := q.offset
  labels := attached .label q.selections
  formats := attached .format q.selections
  flags := q.flags

/-- The text of a query is that of the clauses that it is written as. -/
theorem toText_written (q : Query) : q.written.toText = q.toText := by
  have hselected : printSelected q.written.selected? =
      if q.star then "SELECT *"
      else "SELECT " ++ commaSeparated (q.selections.map (·.expr.toText)) := by
    unfold written
    dsimp only
    split
    · rfl
    · rw [printSelected, List.map_map]
      rfl
  have hattached (which : Attachment) : (attached which q.selections).map printEntry =
      printAttached (Selection.text? which) q.selections := by
    rw [attached, printAttached, List.map_filterMap]
    congr 1
    funext s
    cases Selection.text? which s <;> rfl
  have hlabel : printAttached (·.label?) q.selections = q.written.labels.map printEntry :=
    (hattached .label).symm
  have hformat : printAttached (·.format?) q.selections = q.written.formats.map printEntry :=
    (hattached .format).symm
  have hflags : q.flags.map Flag.word = q.optionWords := by
    unfold flags optionWords
    split <;> split <;> rfl
  rw [Clauses.toText, toText, hselected, hlabel, hformat, ← hflags]
  rfl

/-- Clauses and their unsigned form have the same text. -/
theorem toText_unsigned (c : Clauses) : c.unsigned.toText = c.toText := by
  have hexpr : Expr.toText ∘ Expr.unsigned = Expr.toText := funext Expr.toText_unsigned
  have hkey : printSortKey ∘ unsignedKey = printSortKey := by
    funext k
    simp [printSortKey, unsignedKey, Expr.toText_unsigned]
  have hentry : printEntry ∘ unsignedEntry = printEntry := by
    funext x
    simp [printEntry, unsignedEntry, Expr.toText_unsigned]
  have hselected : printSelected c.unsigned.selected? = printSelected c.selected? := by
    cases hc : c.selected? with
    | none => simp [Clauses.unsigned, hc]
    | some es => simp [Clauses.unsigned, hc, printSelected, hexpr]
  have hfilter : c.unsigned.filter?.toList.map Expr.toText =
      c.filter?.toList.map Expr.toText := by
    cases hc : c.filter? with
    | none => simp [Clauses.unsigned, hc]
    | some e => simp [Clauses.unsigned, hc, Expr.toText_unsigned]
  rw [Clauses.toText, Clauses.toText, hselected, hfilter]
  simp [Clauses.unsigned, hkey, hentry]

/-- Taking the unsigned form again changes nothing. -/
theorem unsigned_unsigned (c : Clauses) : c.unsigned.unsigned = c.unsigned := by
  have hexpr : Expr.unsigned ∘ Expr.unsigned = Expr.unsigned := funext Expr.unsigned_unsigned
  have hkey : unsignedKey ∘ unsignedKey = unsignedKey := by
    funext k
    simp [unsignedKey, Expr.unsigned_unsigned]
  have hentry : unsignedEntry ∘ unsignedEntry = unsignedEntry := by
    funext x
    simp [unsignedEntry, Expr.unsigned_unsigned]
  simp [Clauses.unsigned, hexpr, hkey, hentry, Function.comp_def]

end ChartQuery.Query
