import ChartQuery.Response
import ChartQuery.Text.Split

/-!
# Comma separated values

A response as rows of fields.  Every field stands between quotes, and a quote inside of a field is
doubled, so fields may hold commas, quotes and line ends.
-/

namespace ChartQuery.Response.Csv

/-- The rows that a response is written as: its failures if there are any, else the titles and the
rows of its table. -/
def rows (r : Response) : List (List String) :=
  if r.errors.isEmpty then
    match r.table? with
    | some t => t.titles :: t.texts
    | none => []
  else r.errors.map fun e => [e.reason.text, e.message]

/-- A field between quotes. -/
def field (s : String) : String := "\x22" ++ Text.doubled '\x22' s ++ "\x22"

/-- A row on a line of its own. -/
def line (fields : List String) : String := ",".intercalate (fields.map field) ++ "\n"

/-- The text of rows. -/
def print (rows : List (List String)) : String := String.join (rows.map line)

/-- The text of a response. -/
def ofResponse (r : Response) : String := print (rows r)

end ChartQuery.Response.Csv
