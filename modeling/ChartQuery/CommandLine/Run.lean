import ChartQuery.CommandLine.Arguments
import ChartQuery.Connection.Text
import ChartQuery.Connection.Url
import ChartQuery.Gateway.Reply
import ChartQuery.Rendition
import ChartQuery.Session

/-!
# Running the command line

With queries, the program answers each of them or puts it into a dialect.  Without, it answers the
request that a gateway put into the environment.  All that it sees of the world comes in one record,
and all that it does stands in another.
-/

namespace ChartQuery.CommandLine

/-- What the program sees of the world.  A path that leads to no file has no content, and the
content is missing if the file cannot be read. -/
structure Surroundings where
  environment : String → Option String
  file? : String → Option (Option String)
  settingsPath : String
  connect : Connection → Source

/-- What the program does: it writes, and ends with a code. -/
structure Outcome where
  code : Nat
  output : List UInt8
  errors : String
  deriving DecidableEq, Repr

/-- The end of a program that could not do what was asked for. -/
def Outcome.failed (message : String) : Outcome := ⟨1, [], "Error: " ++ message ++ "\n"⟩

/-! ### Settings -/

/-- The connection of a file of settings. -/
def ofFile (path : String) (content? : Option String) : Except Connection.Failure Connection :=
  match content? with
  | some content => Connection.ofText content
  | none => .error (.unreadableFile path)

/-- The connection of a source: of the file if there is one, else of the URL. -/
def ofSource (s : Surroundings) (source : String) : Except Connection.Failure Connection :=
  match s.file? source with
  | some content? => ofFile source content?
  | none => Connection.ofUrl source

/-- The connection as the arguments have it. -/
def adjust (a : Arguments) (c : Connection) : Connection :=
  { c with
    defaultTable := a.defaultTable?.getD c.defaultTable
    tables := (a.tables?.map Connection.splitTables).getD c.tables
    extended := a.extended || c.extended }

/-- The connection that the program works with. -/
def connection (s : Surroundings) (a : Arguments) : Except Connection.Failure Connection := do
  let c ← match a.source? with
    | some source => ofSource s source
    | none => ofFile s.settingsPath (s.file? s.settingsPath).join
  return adjust a (c.withPasswordFrom s.environment)

/-! ### Dialects -/

/-- The queries in a dialect, and the failures of those that have no text in it. -/
def render (p : Profile) (queries : List String) : Outcome :=
  let renditions := queries.map (Rendition.ofText p)
  let failed := renditions.filterMap fun r => r.failure?.map fun f => (r.query, f)
  let done := renditions.filter fun r => r.failure?.isNone
  ⟨if failed.isEmpty then 0 else 1, Utf8.encode (done.flatMap fun r => r.text.toList ++ ['\n']),
    String.join (failed.map fun (q, f) => q ++ ": " ++ f.text ++ "\n")⟩

/-! ### Answering -/

/-- A response as the program writes it; one in JSON is a line. -/
def write (f : OutputFormat) (r : Response) (title : String) : List UInt8 :=
  f.write r title ++ if f = .json then Utf8.encode ['\n'] else []

/-- The responses to queries. -/
def answer (s : Session) (f : OutputFormat) (queries : List String) (title : String) : Outcome :=
  ⟨0, queries.flatMap fun q => write f (s.respond q) title, ""⟩

/-- The reply to the request of a gateway. -/
def reply (s : Session) (queryString : String) (title : String) : Outcome :=
  let q := Gateway.Request.parse queryString
  ⟨0, (Gateway.Reply.ofResponse q (s.respond q.query) title).bytes, ""⟩

/-- What the program does with its connection. -/
def act (s : Surroundings) (a : Arguments) (c : Connection) : Outcome :=
  match a.dialect? with
  | some d => render { c.profile with dialect := d } a.queries
  | none =>
    let session : Session := ⟨c.profile, s.connect c⟩
    if a.queries.isEmpty then
      match s.environment "QUERY_STRING" with
      | some queryString => reply session queryString c.defaultTable
      | none => .failed "CGI query not found (QUERY_STRING env variable not set)"
    else answer session (a.format?.getD .json) a.queries c.defaultTable

/-- What the program does with its arguments. -/
def run (s : Surroundings) (words : List String) : Outcome :=
  match Arguments.parse words with
  | .error e => ⟨2, [], "error: " ++ e.message ++ "\n"⟩
  | .ok a =>
    if a.queries.isEmpty && a.format?.isSome then
      .failed "the --format option is not supported in cgi mode"
    else
      match connection s a with
      | .error e => .failed e.message
      | .ok c => act s a c

end ChartQuery.CommandLine
