import ChartQuery.Table

/-!
# Data sources

A data source answers statements with tables.  When it fails it may say for which reason; if it
does not, the request is taken to be at fault.
-/

namespace ChartQuery

/-- The failure of a data source: the reason if it gives one, its message, and what the statement
was run for, the widest purpose first. -/
structure SourceError where
  reason? : Option Reason
  message : String
  contexts : List String
  deriving DecidableEq, Repr

/-- The failure as a client is told of it.  A message with a reason stands for itself; one without
is put behind the purposes. -/
def SourceError.toFailure (e : SourceError) : Failure :=
  match e.reason? with
  | some r => .reported r e.message
  | none => .reported .invalidRequest (": ".intercalate (e.contexts ++ [e.message]))

/-- A data source: whether there is a connection to it, and what it answers to a statement. -/
structure Source where
  isConnected : Bool
  fetch : String → Except SourceError Table

/-- A source that there is no connection to. -/
def Source.unavailable : Source :=
  ⟨false, fun _ => .error ⟨some .accessDenied, "db connection failed", []⟩⟩

end ChartQuery
