import ChartQuery.Response
import ChartQuery.Text.Utf16

/-!
# Tab separated values

A response as lines of fields, in UTF-16.  The failures come first, and then the table if there is
one.  Tabs are left out of the fields of the table, so that each line has a field for each cell.
-/

namespace ChartQuery.Response.Tsv

/-- A field of the table. -/
def field (s : String) : String := String.ofList (s.toList.filter (· != '\t'))

/-- The rows that a table is written as. -/
def rowsOfTable (t : Table) : List (List String) :=
  (t.titles :: t.texts).map fun r => r.map field

/-- The rows that a response is written as. -/
def rows (r : Response) : List (List String) :=
  (r.errors.map fun e => [e.reason.text, e.message]) ++
    match r.table? with
    | some t => rowsOfTable t
    | none => []

/-- A row on a line of its own. -/
def line (fields : List String) : String := "\t".intercalate fields ++ "\n"

/-- The text of rows. -/
def print (rows : List (List String)) : String := String.join (rows.map line)

/-- The bytes of a response, with a byte order mark in front. -/
def ofResponse (r : Response) : List UInt8 :=
  Utf16.byteOrderMark ++ Utf16.encode (print (rows r)).toList

end ChartQuery.Response.Tsv
