import ChartQuery.Profile

/-!
# Renditions

A rendition is a query put into a dialect, with a record of what came of it.
-/

namespace ChartQuery

/-- What came of a query. -/
inductive Rendition.Status
  | ok
  | syntaxError
  | accessDenied
  | error
  deriving DecidableEq, Repr

/-- A column of the result as the query describes it. -/
structure Rendition.Column where
  id : String
  label? : Option String
  format? : Option String
  deriving DecidableEq, Repr

/-- A query with its text in a dialect, or with the failure that prevented it. -/
structure Rendition where
  dialect : Dialect
  status : Rendition.Status
  query : String
  text : String
  failure? : Option Failure
  columns : List Rendition.Column
  deriving DecidableEq, Repr

namespace Rendition

/-- Whether there is a text in the dialect. -/
def isOk (r : Rendition) : Bool := r.status == .ok

/-- The columns that a query describes. -/
def columnsOf (q : Query) : List Rendition.Column :=
  q.selections.map fun s => ⟨s.expr.columnId, s.label?, s.format?⟩

/-- The status of a query that was read and then failed. -/
def failedStatus (f : Failure) : Status :=
  if f.reason = .accessDenied then .accessDenied else .error

/-- The rendition of a query for a profile. -/
def ofText (p : Profile) (text : String) : Rendition :=
  match p.parse text with
  | .error f => ⟨p.dialect, .syntaxError, text, "", some f, []⟩
  | .ok q =>
    match p.compile q with
    | .error f => ⟨p.dialect, failedStatus f, text, "", some f, columnsOf q⟩
    | .ok sql => ⟨p.dialect, .ok, text, sql, none, columnsOf q⟩

end Rendition

end ChartQuery
