import ChartQuery.Connection
import ChartQuery.Url

/-!
# Connections as URLs

The scheme of a URL stands for the kind of database, and its path for the name of the database.
-/

namespace ChartQuery.Connection

/-- The path of a URL without the slashes in front. -/
def databasePath (path : String) : String := String.ofList (path.toList.dropWhile (· == '/'))

/-- The connection of a URL. -/
def ofUrl (text : String) : Except Failure Connection :=
  match Url.parse? text with
  | none => .error (.unreadableUrl text)
  | some url =>
    match Backend.ofScheme? url.scheme with
    | none => .error (.unknownScheme url.scheme)
    | some backend => .ok { default with
        backend := backend
        user := Percent.decode url.user
        password := Percent.decode url.password
        server := url.host?.getD defaultServer
        portNumber := url.portNumber?.getD 0
        database := Percent.decode (databasePath url.path) }

end ChartQuery.Connection
