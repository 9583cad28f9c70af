import ChartQuery.Json.Value
import ChartQuery.Profile

/-!
# Connections

The settings with which a database is reached and queries are put to it.
-/

namespace ChartQuery

/-! ### Databases -/

/-- The kinds of database. -/
inductive Backend
  | postgresql
  | mysql
  | mariadb
  deriving DecidableEq, Inhabited, Repr

namespace Backend

/-- All kinds of database. -/
def all : List Backend := [postgresql, mysql, mariadb]

/-- The name of a kind of database. -/
def name : Backend → String
  | postgresql => "postgresql"
  | mysql => "mysql"
  | mariadb => "mariadb"

/-- The kind of database with a name. -/
def ofName? (s : String) : Option Backend := all.find? fun b => b.name == s

/-- The kind of database that the scheme of a URL stands for. -/
def ofScheme? (s : String) : Option Backend :=
  if s = "postgres" then some postgresql else ofName? s

/-- The dialect that a database understands. -/
def dialect : Backend → Dialect
  | postgresql => .postgreSql
  | mysql | mariadb => .mySql

/-- The number that a database listens at if no other is given. -/
def defaultPort : Backend → Nat
  | postgresql => 5432
  | mysql | mariadb => 3306

end Backend

/-- Whether a connection is encrypted: never, if the database allows it, or always. -/
inductive SslMode
  | disable
  | prefer
  | require
  deriving DecidableEq, Inhabited, Repr

namespace SslMode

/-- All modes. -/
def all : List SslMode := [disable, prefer, require]

/-- The name of a mode. -/
def name : SslMode → String
  | disable => "disable"
  | prefer => "prefer"
  | require => "require"

/-- The mode with a name. -/
def ofName? (s : String) : Option SslMode := all.find? fun m => m.name == s

end SslMode

/-! ### Settings -/

/-- The settings of a connection.  The number that the
database listens at is zero if it is the default one.  The default table is the one of columns that
name no table. -/
structure Connection where
  backend : Backend
  user : String
  password : String
  server : String
  portNumber : Nat
  database : String
  defaultTable : String
  tables : List String
  extended : Bool
  sslMode : SslMode
  acceptInvalidCertificates : Bool
  deriving DecidableEq, Repr

namespace Connection

/-- The server if no other is given. -/
def defaultServer : String := "localhost"

/-- The settings if no others are given. -/
def default : Connection :=
  ⟨.postgresql, "", "", defaultServer, 0, "", "", [], false, .prefer, false⟩

instance : Inhabited Connection := ⟨default⟩

/-- The names in a list of tables, which are separated by spaces, commas or semicolons. -/
def splitTables (list : String) : List String :=
  let separated := Text.replaceEach (fun c => if c = ',' || c = ';' then [' '] else [c]) list
  Text.sortedNames ((Text.split ' ' separated).filter fun t => !t.isEmpty)

/-- The variables of the environment that a password is taken from, the first one first. -/
def passwordVariables : List String := ["GQLSQL_PASSWORD", "PGPASSWORD"]

/-- The settings with a password from the environment, unless there is one already. -/
def withPasswordFrom (environment : String → Option String) (c : Connection) : Connection :=
  if c.password.isEmpty then
    { c with password := (passwordVariables.findSome? environment).getD "" }
  else c

/-- The number that the database is reached at. -/
def effectivePort (c : Connection) : Nat :=
  if c.portNumber = 0 then c.backend.defaultPort else c.portNumber

/-- The profile for queries. -/
def profile (c : Connection) : Profile :=
  ⟨c.backend.dialect, c.defaultTable, c.tables, c.extended⟩

/-! ### Texts -/

/-- The value of a parameter: free text, which is quoted, or text of a known form. -/
inductive ParameterValue
  | quoted (s : String)
  | plain (s : String)
  deriving DecidableEq, Repr

/-- The text with a backslash put before every occurrence of a character. -/
def escapeEach (q : Char) (s : String) : String :=
  Text.replaceEach (fun c => if c = q then ['\\', c] else [c]) s

/-- The value as it is written.  Backslashes are escaped first, so that those which are put before
quotes stay as they are. -/
def ParameterValue.print : ParameterValue → String
  | quoted s => "\x27" ++ escapeEach '\x27' (escapeEach '\\' s) ++ "\x27"
  | plain s => s

/-- The parameters of the connection. -/
def parameters (c : Connection) : List (String × ParameterValue) :=
  [("host", .quoted c.server), ("port", .plain (toString c.effectivePort)),
    ("dbname", .quoted c.database), ("user", .quoted c.user), ("password", .quoted c.password),
    ("sslmode", .plain c.sslMode.name), ("connect_timeout", .plain "10")]

/-- The parameters as a database client takes them. -/
def connectionString (c : Connection) : String :=
  " ".intercalate (c.parameters.map fun (key, value) => key ++ "=" ++ value.print)

/-- The connection as a reader is told of it, without the password. -/
def displayString (c : Connection) : String :=
  c.user ++ "@" ++ c.server ++ ":" ++ toString c.effectivePort ++ "/" ++ c.database

/-- The settings in JSON, without the password. -/
def toJson (c : Connection) : JsonValue :=
  .object [("type", .string c.backend.name), ("user", .string c.user),
    ("server", .string c.server), ("port", .ofInt c.portNumber), ("db", .string c.database),
    ("default", .string c.defaultTable), ("tables", .array (c.tables.map JsonValue.string)),
    ("extended", .bool c.extended), ("ssl_mode", .string c.sslMode.name),
    ("accept_invalid_certs", .bool c.acceptInvalidCertificates)]

/-! ### Failures -/

/-- Why there are no settings. -/
inductive Failure
  /-- No database is reached by URLs of this scheme. -/
  | unknownScheme (scheme : String)
  /-- A text that is no URL. -/
  | unreadableUrl (text : String)
  /-- A text that is no list of settings. -/
  | unreadableSettings
  /-- A file that cannot be read. -/
  | unreadableFile (path : String)
  deriving DecidableEq, Repr

/-- The failure as a reader is told of it. -/
def Failure.message : Failure → String
  | unknownScheme scheme => "unknown scheme " ++ scheme
  | unreadableUrl text => "DB URL cannot be parsed: " ++ text
  | unreadableSettings => "Config file not readable"
  | unreadableFile path => "config file " ++ path ++ " is not readable"

end Connection

end ChartQuery
