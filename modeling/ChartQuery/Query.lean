import ChartQuery.Expr

/-!
# Queries

A query selects expressions from a table, filters, groups, pivots and orders its rows, cuts out a
range of them, and attaches labels and formats to the columns of the result.
-/

namespace ChartQuery

/-- A selected expression with the label and the format attached to it. -/
structure Selection where
  expr : Expr
  label? : Option String
  format? : Option String
  deriving DecidableEq

/-- A selected expression without label and format. -/
def Selection.ofExpr (e : Expr) : Selection := ⟨e, none, none⟩

/-- Whether a selected expression combines the rows of a group. -/
def Selection.isAggregate (s : Selection) : Bool := s.expr.isAggregate

/-- A sort key with its direction. -/
structure SortKey where
  expr : Expr
  descending : Bool
  deriving DecidableEq

/-- A query.  With `star` all columns are selected, and `selections` holds only what labels and
formats are attached to.  A limit or an offset of zero is none. -/
structure Query where
  star : Bool
  selections : List Selection
  filter? : Option Expr
  groupBy : List String
  pivot : List String
  orderBy : List SortKey
  limit : Nat
  offset : Nat
  noFormat : Bool
  noValues : Bool
  extended : Bool
  deriving DecidableEq

namespace Query

/-- The query of everything. -/
def all : Query := ⟨true, [], none, [], [], [], 0, 0, false, false, false⟩

instance : Inhabited Query := ⟨all⟩

/-- Whether the result is to be pivoted. -/
def hasPivot (q : Query) : Bool := !q.pivot.isEmpty

/-- The number of columns that stand before the selected ones because of a pivot. -/
def injectedColumns (q : Query) : Nat :=
  if q.hasPivot then q.pivot.length + q.groupBy.length else 0

end Query

end ChartQuery
