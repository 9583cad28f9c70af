import ChartQuery.Expr.Printer
import ChartQuery.Pattern.Kind
import ChartQuery.Query
import ChartQuery.Table

/-!
# Labels and patterns of columns

The labels and formats of a query are put on the columns of its result.  A column with a pattern is
then shown as the type that the pattern and the type of the data decide on.
-/

namespace ChartQuery

namespace Column

/-- The pattern that stands for no particular pattern. -/
def general : String := "General"

/-- Whether the pattern of a column is no particular one. -/
def isGeneral (c : Column) : Bool := c.pattern.isEmpty || c.pattern == general

/-- The column with the label and the format of a selection, where it has them. -/
def annotate (s : Selection) (c : Column) : Column :=
  { c with label := s.label?.getD c.label, pattern := s.format?.getD c.pattern }

/-- The column of a selected expression. -/
def select (s : Selection) (c : Column) : Column :=
  annotate s { c with id := s.expr.columnId }

/-- The column with the type that its pattern decides on.  Without a particular pattern the type
stays. -/
def resolve (c : Column) : Except Failure Column :=
  if c.isGeneral then .ok { c with pattern := general, native? := none }
  else do
    let k ← PatternKinds.classify c.pattern
    .ok { c with native? := some c.type, type := k.displayType c.type }

end Column

namespace Table

/-- The columns with the selections put on them in order; further columns stay as they are. -/
def selectColumns : List Selection → List Column → List Column
  | s :: ss, c :: cs => c.select s :: selectColumns ss cs
  | _, cs => cs

/-- The columns with a selection put on all those that it names. -/
def annotateNamed (cs : List Column) (s : Selection) : List Column :=
  cs.map fun c => if c.id = s.expr.columnId then c.annotate s else c

/-- Puts labels and formats on the columns.  A query of all columns names them by their identifiers;
otherwise the selected expressions come in order after the columns of a pivot. -/
def annotateColumns (q : Query) (cs : List Column) : Except Failure (List Column) :=
  if q.star then .ok (q.selections.foldl annotateNamed cs)
  else
    let needed := q.injectedColumns + q.selections.length
    if cs.length < needed then .error (.columnCount cs.length needed)
    else
      .ok (cs.take q.injectedColumns ++ selectColumns q.selections (cs.drop q.injectedColumns))

/-- Puts labels and formats on the columns and decides on the types that they are shown as. -/
def assignLabels (q : Query) (t : Table) : Progress Table :=
  match annotateColumns q t.columns with
  | .error f => .stopped t f
  | .ok cs => (Progress.each Column.resolve cs).map fun cs => { t with columns := cs }

end Table

end ChartQuery
