import ChartQuery.Query.Parser
import ChartQuery.Sql.Compile

/-!
# Profiles

A profile holds what a data source asks of queries: the dialect that they are put into, the tables
that they may read, and whether they may call functions beyond those of the query language.
-/

namespace ChartQuery

/-- The profile of a data source. -/
structure Profile where
  dialect : Dialect
  defaultTable : String
  allowedTables : List String
  extended : Bool
  deriving DecidableEq, Inhabited, Repr

namespace Profile

/-- The tables that a query may read. -/
def access (p : Profile) : Sql.Access := ⟨p.defaultTable, p.allowedTables⟩

/-- Reads a query. -/
def parse (p : Profile) (text : String) : Except Failure Query := Query.parse text p.extended

/-- The text of a query in the dialect. -/
def compile (p : Profile) (q : Query) : Except Failure String := Sql.compile p.dialect p.access q

end Profile

end ChartQuery
