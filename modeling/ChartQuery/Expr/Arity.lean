import ChartQuery.Expr
import ChartQuery.Failure

/-!
# Numbers of arguments

The functions and operators that a query may use outermost, with the number of arguments of each.
Calls below the outermost one are left to the database.
-/

namespace ChartQuery.Expr

/-- The number of arguments of a function or operator.  Names are taken as written: `dayOfWeek` is
known, `DAYOFWEEK` is not. -/
def arity? : String → Option Nat
  | "year" | "month" | "day" | "hour" | "minute" | "second" | "millisecond" | "quarter"
  | "dayOfWeek" => some 1
  | "dateDiff" => some 2
  | "toDate" | "upper" | "lower" => some 1
  | "now" => some 0
  | "like" | "matches" | "contains" | "ends" | "starts" => some 2
  | "and" | "or" => some 2
  | "+" | "-" | "/" | "*" => some 2
  | "=" | "!=" | "<>" | "<" | ">" | "<=" | ">=" => some 2
  | "avg" | "count" | "max" | "min" | "sum" => some 1
  | "is null" | "is not null" => some 1
  | _ => none

/-- Checks the outermost node.  A leaf is always right; the node of a call or operator has to be
known by its text, and to have that many arguments. -/
def checkArity (e : Expr) : Except Failure Unit :=
  if e.args.isEmpty && !e.emptyCall then .ok ()
  else match arity? e.text with
    | none => .error (.unknownFunction e.text)
    | some n =>
      if n = e.args.length then .ok () else .error (.argumentCount e.text n e.args.length)

end ChartQuery.Expr
