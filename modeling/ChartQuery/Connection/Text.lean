import ChartQuery.Connection
import ChartQuery.Setting.Json
import ChartQuery.Setting.Toml
import ChartQuery.Text.Blank

/-!
# Connections as texts of settings

A text of settings is written in JSON if it begins with a brace, else in TOML.  Unknown settings
are passed over, and settings that are not made keep their default.
-/

namespace ChartQuery.Connection

/-- The names of the settings. -/
def settingNames : List String :=
  ["type", "user", "password", "server", "port", "db", "default", "tables", "extended", "ssl_mode",
    "accept_invalid_certs"]

/-- The number if it is one that a database can listen at. -/
def portNumber? (n : Nat) : Option Nat := if n < 65536 then some n else none

/-- The connection with a setting made, if its value is of the right kind. -/
def set? (c : Connection) (name : String) (v : Setting) : Option Connection :=
  match name with
  | "type" => (v.choice? >>= Backend.ofName?).map fun b => { c with backend := b }
  | "user" => v.text?.map fun s => { c with user := s }
  | "password" => v.text?.map fun s => { c with password := s }
  | "server" => v.text?.map fun s => { c with server := s }
  | "port" => (v.natural? >>= portNumber?).map fun n => { c with portNumber := n }
  | "db" => v.text?.map fun s => { c with database := s }
  | "default" => v.text?.map fun s => { c with defaultTable := s }
  | "tables" => v.texts?.map fun l => { c with tables := l }
  | "extended" => v.flag?.map fun b => { c with extended := b }
  | "ssl_mode" => (v.choice? >>= SslMode.ofName?).map fun m => { c with sslMode := m }
  | "accept_invalid_certs" => v.flag?.map fun b => { c with acceptInvalidCertificates := b }
  | _ => some c

/-- The connection of settings, of which none may be made twice. -/
def ofFields? (fields : List (String × Setting)) : Option Connection :=
  if ((fields.map Prod.fst).filter (settingNames.contains ·)).Nodup then
    fields.foldlM (fun c (name, v) => c.set? name v) default
  else none

/-- The text without its first line if that begins with a number sign, as one does that names an
interpreter. -/
def skipFirstLine : List Char → List Char
  | '#' :: cs => (cs.dropWhile (· != '\n')).drop 1
  | cs => cs

/-- The settings of a text. -/
def settings? (cs : List Char) : Option Setting :=
  match Text.trimStart cs with
  | '\x7b' :: _ => Setting.Json.value? (String.ofList cs)
  | _ => Setting.Toml.value? (String.ofList cs)

/-- The connection of a text of settings. -/
def ofText (s : String) : Except Failure Connection :=
  match settings? (skipFirstLine s.toList) >>= Setting.fields? >>= ofFields? with
  | some c => .ok c
  | none => .error .unreadableSettings

end ChartQuery.Connection
