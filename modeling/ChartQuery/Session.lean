import ChartQuery.Profile
import ChartQuery.Response
import ChartQuery.Source
import ChartQuery.Table.Conversion
import ChartQuery.Table.Labels
import ChartQuery.Table.Pivot

/-!
# Sessions

In a session, queries are put to a data source.  A query is read, put into the dialect of the source
and sent to it.  The table that comes back is labelled, shown in the patterns of the query, and
pivoted if the query says so.  The first failure on this way is the response.
-/

namespace ChartQuery

/-- A data source with its profile. -/
structure Session where
  profile : Profile
  source : Source

namespace Session

/-- The query with its statement.  Without a connection no query is read. -/
def prepare (s : Session) (text : String) : Except Failure (Query × String) :=
  if s.source.isConnected then do
    let q ← s.profile.parse text
    let statement ← s.profile.compile q
    return (q, statement)
  else .error .notConnected

/-- The statement that the source is asked to run for a query, if it comes to that. -/
def statement? (s : Session) (text : String) : Option String :=
  (s.prepare text).toOption.map Prod.snd

/-- The table of a query, made of what the source answered.  The keys of a pivoted table are texts
of cells, so those are made first and left out afterwards if they are not wanted. -/
def finish (q : Query) (raw : Table) : Except Failure Table := do
  let labelled ← (Table.assignLabels q raw).toExcept
  if q.hasPivot then
    let shown ← (Table.applyFormats ⟨q.noValues, false⟩ labelled).toExcept
    let pivoted ← (Table.pivot q shown).toExcept
    return if q.noFormat then pivoted.stripTexts else pivoted
  else Table.applyFormats ⟨q.noValues, q.noFormat⟩ labelled

/-- The table of a query. -/
def run (s : Session) (text : String) : Except Failure Table := do
  let (q, statement) ← s.prepare text
  let raw ← (s.source.fetch statement).mapError SourceError.toFailure
  finish q raw

/-- The response to a query. -/
def respond (s : Session) (text : String) : Response := .ofExcept (s.run text)

end Session

end ChartQuery
