import ChartQuery.Response.Csv
import ChartQuery.Response.Html
import ChartQuery.Response.Tsv
import ChartQuery.Text.Utf8

/-!
# Output formats
-/

namespace ChartQuery

/-- The formats that a response can be written in. -/
inductive OutputFormat
  | json
  | csv
  | tsv
  | html
  deriving DecidableEq, Inhabited, Repr

namespace OutputFormat

/-- The name of a format. -/
def name : OutputFormat → String
  | json => "json"
  | csv => "csv"
  | tsv => "tsv"
  | html => "html"

/-- The format that a request asks for; without a wish it is JSON. -/
def ofText : String → Except Failure OutputFormat
  | "" | "json" => .ok json
  | "csv" => .ok csv
  | "tsv" | "tsv-excel" => .ok tsv
  | "html" => .ok html
  | other => .error (.unsupportedFormat other)

/-- The bytes of a response.  The title is that of an HTML page. -/
def write (f : OutputFormat) (r : Response) (title : String) : List UInt8 :=
  match f with
  | json => Utf8.encode r.toJson.print.toList
  | csv => Utf8.encode (Response.Csv.ofResponse r).toList
  | tsv => Response.Tsv.ofResponse r
  | html => Utf8.encode (Response.Html.ofResponse r title).toList

end OutputFormat

end ChartQuery
