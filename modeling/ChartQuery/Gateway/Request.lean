import ChartQuery.Response.OutputFormat
import ChartQuery.Text.Percent

/-!
# Requests through a gateway

A request arrives as a query string: the query stands in its part `tq`, and what is wanted besides
in its part `tqx`, as pairs of a key and a value.
-/

namespace ChartQuery.Gateway

/-- A request.  The identifier is kept as it was sent, and version and signature are not used. -/
structure Request where
  query : String
  id : String
  version : String
  out : String
  signature : String
  handler : String
  fileName : String
  deriving DecidableEq, Inhabited, Repr

namespace Request

/-- The request that asks for nothing. -/
def empty : Request := ⟨"", "", "", "", "", "", ""⟩

/-- The request with the value of a key; unknown keys are passed over. -/
def set (r : Request) (key value : String) : Request :=
  match key with
  | "reqId" => { r with id := value }
  | "version" => { r with version := value }
  | "out" => { r with out := value }
  | "sig" => { r with signature := value }
  | "responseHandler" => { r with handler := value }
  | "outFileName" => { r with fileName := value }
  | _ => r

/-- The request with a pair, whose key and value stand around the first colon.  What has no colon
is passed over. -/
def addPair (r : Request) (pair : String) : Request :=
  match Text.cut? ':' pair with
  | some (key, value) => r.set key value
  | none => r

/-- The request with the pairs of a list.  Of pairs with the same key the last one counts. -/
def addPairs (r : Request) (pairs : String) : Request :=
  (Text.split ';' pairs).foldl addPair r

/-- What follows on the name of a part and an equals sign. -/
def part? (name : String) (part : String) : Option String :=
  ((name ++ "=").toList.isPrefixOf? part.toList).map String.ofList

/-- The request with a part of the query string; unknown parts are passed over. -/
def addPart (r : Request) (part : String) : Request :=
  match part? "tqx" part, part? "tq" part with
  | some pairs, _ => r.addPairs (Percent.decodeComponent pairs)
  | none, some query => { r with query := Percent.decodeComponent query }
  | none, none => r

/-- The request of a query string. -/
def parse (queryString : String) : Request :=
  (Text.split '&' queryString).foldl addPart empty

/-- The format of the reply; it is JSON if the request asks for one that there is not. -/
def format (r : Request) : OutputFormat := (OutputFormat.ofText r.out).toOption.getD .json

end Request

end ChartQuery.Gateway
