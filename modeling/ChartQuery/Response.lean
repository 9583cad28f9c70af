import ChartQuery.Table

/-!
# Responses

What a client gets for a query: a table, or the failures that prevented it.
-/

namespace ChartQuery

namespace Response

/-- Whether a query succeeded. -/
inductive Status
  | ok
  | error
  deriving DecidableEq, Repr

/-- The status as it is written. -/
def Status.text : Status → String
  | ok => "ok"
  | error => "error"

/-- A failure as a client is told of it. -/
structure Entry where
  reason : Reason
  message : String
  deriving DecidableEq, Repr

/-- The entry of a failure. -/
def Entry.ofFailure (f : Failure) : Entry := ⟨f.reason, f.message⟩

/-- The entry in JSON. -/
def Entry.toJson (e : Entry) : JsonValue :=
  .object [("reason", .string e.reason.text), ("message", .string e.message)]

/-- The version of the protocol that responses are written in. -/
def version : String := "0.7"

end Response

/-- A response.  The identifier is that of the request, if it is to be repeated. -/
structure Response where
  requestId? : Option Int
  status : Response.Status
  table? : Option Table
  errors : List Response.Entry
  deriving DecidableEq, Repr

namespace Response

/-- The response to a query that succeeded. -/
def ok (t : Table) : Response := ⟨none, .ok, some t, []⟩

/-- The response to a query that failed. -/
def error (f : Failure) : Response := ⟨none, .error, none, [.ofFailure f]⟩

/-- The response to a query with the given outcome. -/
def ofExcept : Except Failure Table → Response
  | .ok t => ok t
  | .error f => error f

/-- Whether the query succeeded. -/
def isOk (r : Response) : Bool := r.status == .ok

/-- The response with the identifier of its request. -/
def withRequestId (r : Response) (id? : Option Int) : Response := { r with requestId? := id? }

/-- The response in JSON.  What is missing is left out, and so is an empty list of failures. -/
def toJson (r : Response) : JsonValue :=
  .object ([("version", .string version)] ++
    JsonValue.optional "reqId" (r.requestId?.map JsonValue.ofInt) ++
    [("status", .string r.status.text)] ++
    JsonValue.optional "table" (r.table?.map Table.toJson) ++
    if r.errors.isEmpty then [] else [("errors", .array (r.errors.map Entry.toJson))])

end Response

end ChartQuery
