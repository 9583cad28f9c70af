import ChartQuery.Reason
import ChartQuery.Token

/-!
# Failures

Every way in which a request can fail, as a cause.  The reason, the message and the position that
a client sees are functions of the cause, so each wording stands in one place.
-/

namespace ChartQuery

/-- What a reader of the query language was looking for. -/
inductive Expectation
  | kind (k : Token.Kind)
  | integer
  | nullWord
  | nullOrNot
  | withWord
  | option
  deriving DecidableEq, Repr

/-- The expectation as an error message names it. -/
def Expectation.describe : Expectation → String
  | kind k => k.describe
  | integer => "an integer"
  | nullWord => "'null'"
  | nullOrNot => "'null' or 'not'"
  | withWord => "'with'"
  | option => "'no_format' or 'no_values'"

/-- The two clauses that attach a text to a selected expression. -/
inductive Attachment
  | label
  | format
  deriving DecidableEq, Repr

/-- The clause as an error message names it. -/
def Attachment.describe : Attachment → String
  | label => "label"
  | format => "format"

/-- The kinds of value that a pattern can be written for. -/
inductive PatternKind
  | boolean
  | number
  | date
  deriving DecidableEq, Repr

/-- The kind of pattern as an error message names it. -/
def PatternKind.describe : PatternKind → String
  | boolean => "boolean"
  | number => "number"
  | date => "date"

/-- The kinds of value that a raw value can fail to become. -/
inductive Target
  | boolean
  | number
  | date
  | time
  deriving DecidableEq, Repr

/-- The kind of value as an error message names it. -/
def Target.describe : Target → String
  | boolean => "boolean"
  | number => "number"
  | date => "date"
  | time => "time"

/-- Why a request failed. -/
inductive Failure
  /-- No value can begin with this token. -/
  | unexpected (token : Token)
  /-- Something else had to stand where this token stands. -/
  | expected (what : Expectation) (token : Token)
  /-- An entry of an attaching clause names an expression that is not selected. -/
  | notSelected (clause : Attachment) (pos : Nat) (expr : String)
  /-- A call of a function that is not part of the query language. -/
  | unknownFunction (name : String)
  /-- A call with the wrong number of arguments. -/
  | argumentCount (name : String) (wanted got : Nat)
  /-- A dialect that there is not. -/
  | unknownDialect (name : String)
  /-- An output format that there is not. -/
  | unsupportedFormat (name : String)
  /-- A query of the default table when there is none. -/
  | noDefaultTable
  /-- A query of a table that is not to be read; the name is quoted. -/
  | inaccessibleTable (quoted : String)
  /-- No database answers. -/
  | notConnected
  /-- A typed literal without the text of its value. -/
  | literalWithoutText (keyword : String)
  /-- A row whose number of cells is not the number of columns. -/
  | rowWidth (row cells columns : Nat)
  /-- A result whose number of columns is not the number of selected expressions. -/
  | columnCount (columns selected : Nat)
  /-- A result with too few columns to be pivoted. -/
  | pivotWidth (needed columns : Nat)
  /-- A pattern that is of no kind at all. -/
  | unreadablePattern (pattern : String)
  /-- A pattern that is not of the kind that its column needs. -/
  | wrongPattern (kind : PatternKind) (pattern : String)
  /-- A value, given by its text, that is not of the kind that its column shows. -/
  | notConvertible (target : Target) (value : String)
  /-- A number of milliseconds beyond the years of the calendar. -/
  | timestampRange (milliseconds : Int)
  /-- What a data source reported, in its own words. -/
  | reported (reason : Reason) (message : String)
  deriving DecidableEq, Repr

namespace Failure

/-- The reason that a client is told. -/
def reason : Failure → Reason
  | unexpected _ | expected .. | notSelected .. | unknownFunction _ | argumentCount .. =>
    .invalidQuery
  | unknownDialect _ | unsupportedFormat _ => .notSupported
  | noDefaultTable | inaccessibleTable _ | notConnected => .accessDenied
  | literalWithoutText _ | rowWidth .. | columnCount .. | pivotWidth .. => .internalError
  | unreadablePattern _ | wrongPattern .. | notConvertible .. | timestampRange _ =>
    .illegalFormattingPatterns
  | reported r _ => r

/-- The place in the query that the failure points at. -/
def position? : Failure → Option Nat
  | unexpected token => some token.pos
  | expected _ token => some token.pos
  | notSelected _ pos _ => some pos
  | _ => none

/-- The message without the place in the query. -/
def detail : Failure → String
  | unexpected token => "unexpected token '" ++ token.text ++ "'"
  | expected what token =>
    "expected " ++ what.describe ++ " but got '" ++ token.text ++ "' instead"
  | notSelected clause _ expr => clause.describe ++ " expression " ++ expr ++ " not found"
  | unknownFunction name => "function '" ++ name ++ "' is not known"
  | argumentCount name wanted got =>
    "function '" ++ name ++ "' takes " ++ toString wanted ++ " argument(s), but got " ++
      toString got
  | unknownDialect name => "unknown dialect '" ++ name ++ "'"
  | unsupportedFormat name => "unsupported format '" ++ name ++ "'"
  | noDefaultTable => "no default table is configured"
  | inaccessibleTable quoted => "table " ++ quoted ++ " does not exist or is not accessible"
  | notConnected => "db connection failed"
  | literalWithoutText keyword => keyword ++ " literal without a string value"
  | rowWidth row cells columns =>
    "row " ++ toString row ++ " has " ++ toString cells ++ " cells but the table has " ++
      toString columns ++ " columns"
  | columnCount columns selected =>
    "result has " ++ toString columns ++ " columns but the query selects " ++ toString selected
  | pivotWidth needed columns =>
    "pivot needs " ++ toString needed ++ " leading columns but the result has " ++
      toString columns
  | unreadablePattern pattern =>
    "'" ++ pattern ++ "' is not a valid boolean, number or date pattern"
  | wrongPattern kind pattern =>
    "pattern '" ++ pattern ++ "' is not a valid " ++ kind.describe ++ " pattern"
  | notConvertible target value => "cannot convert '" ++ value ++ "' to a " ++ target.describe
  | timestampRange ms => "timestamp " ++ toString ms ++ " is out of range"
  | reported _ message => message

/-- A message about a place in a query begins with that place. -/
def located (pos : Nat) (detail : String) : String :=
  "pos " ++ toString pos ++ ": " ++ detail

/-- The message, which names the place in the query if there is one. -/
def message (f : Failure) : String :=
  match f.position? with
  | some pos => located pos f.detail
  | none => f.detail

/-- The failure on one line: its reason and its message. -/
def text (f : Failure) : String :=
  f.reason.text ++ ": " ++ f.message

end Failure

end ChartQuery
