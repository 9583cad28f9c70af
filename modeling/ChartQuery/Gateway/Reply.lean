import ChartQuery.Gateway.Request
import ChartQuery.Numeric.Numeral
import ChartQuery.Text.Blank

/-!
# Replies through a gateway

A reply has header lines and a body.  All that a request adds to the headers is the name of a file,
which is percent coded, so a request cannot add a header.
-/

namespace ChartQuery.Gateway

/-- A reply. -/
structure Reply where
  headers : List String
  body : List UInt8
  deriving DecidableEq, Repr

namespace Reply

/-- The end of a header line. -/
def lineEnd : String := "\r\n"

/-- The bytes of a reply: each header on a line, an empty line, and the body. -/
def bytes (r : Reply) : List UInt8 :=
  Utf8.encode (String.join (r.headers.map (· ++ lineEnd)) ++ lineEnd).toList ++ r.body

/-! ### Headers -/

/-- The headers of every reply. -/
def fixedHeaders : List String :=
  ["Cache-Control: no-cache, no-store, max-age=0, must-revalidate",
    "X-Content-Type-Options: nosniff",
    "X-Robots-Tag: noindex, nofollow, nosnippet"]

/-- The value if there is one, else what is used in its place. -/
def orElse (value fallback : String) : String := if value.isEmpty then fallback else value

/-- The header that names a file. -/
def attachment (fileName : String) : String :=
  let name := Percent.encode fileName
  "Content-Disposition: attachment; filename=\x22" ++ name ++ "\x22; filename*=UTF-8''" ++ name

/-- The name of the file if the request gives none; a page is not a file. -/
def defaultFileName? : OutputFormat → Option String
  | .json => some "json.txt"
  | .csv => some "data.csv"
  | .tsv => some "data.tsv"
  | .html => none

/-- The header that gives the type of the body. -/
def contentType : OutputFormat → String
  | .json => "Content-type: application/javascript; charset=utf-8"
  | .csv => "Content-type: text/csv; charset=utf-8"
  | .tsv => "Content-Type: text/tab-separated-values; charset=utf-16"
  | .html => "Content-type: text/html; charset=utf-8"

/-- The headers of a reply. -/
def headersOf (q : Request) : List String :=
  fixedHeaders ++
    ((defaultFileName? q.format).toList.map fun name => attachment (orElse q.fileName name)) ++
    [contentType q.format]

/-! ### Bodies -/

/-- The function that a script passes the response to, if the request names none. -/
def defaultHandler : String := "google.visualization.Query.setResponse"

/-- The identifier that is repeated in a response: zero if the request gives no number. -/
def requestId (q : Request) : Int := (Numeral.integer? 64 (Text.trim q.id)).getD 0

/-- The script that passes the response on. -/
def script (q : Request) (r : Response) : String :=
  "/*O_o*/\n" ++ orElse q.handler defaultHandler ++ "(" ++
    (r.withRequestId (some (requestId q))).toJson.print ++ ");"

/-- The body of a reply. -/
def bodyOf (q : Request) (r : Response) (title : String) : List UInt8 :=
  match q.format with
  | .json => Utf8.encode (script q r).toList
  | format => format.write r title

/-- The reply to a request that got a response.  The title is that of an HTML page. -/
def ofResponse (q : Request) (r : Response) (title : String) : Reply :=
  ⟨headersOf q, bodyOf q r title⟩

end Reply

end ChartQuery.Gateway
