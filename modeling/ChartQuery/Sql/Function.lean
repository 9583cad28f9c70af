import ChartQuery.Sql.Term

/-!
# Functions of the query language in SQL

A table of what each function of the query language becomes.  A name is looked up in any mixture
of ASCII cases, and a function that is not in the table is left to the database as it is.
-/

namespace ChartQuery.Sql

/-- What a function becomes, by the number of its arguments. -/
inductive Mapping
  | constant (term : Term)
  | unary (build : Term → Term)
  | binary (build : Term → Term → Term)

namespace Mapping

/-- The number of arguments. -/
def arity : Mapping → Nat
  | constant _ => 0
  | unary _ => 1
  | binary _ => 2

/-- The term for the given arguments, if there are as many as there have to be. -/
def build? : Mapping → List Term → Option Term
  | constant t, [] => some t
  | unary f, [a] => some (f a)
  | binary f, [a, b] => some (f a b)
  | _, _ => none

/-- A term is built exactly from the right number of arguments. -/
theorem build?_isSome_iff (m : Mapping) (args : List Term) :
    (m.build? args).isSome ↔ args.length = m.arity := by
  cases m <;> rcases args with _ | ⟨a, _ | ⟨b, _ | ⟨c, args⟩⟩⟩ <;> simp [build?, arity]

end Mapping

open Term

/-- A pattern that has to match the whole text. -/
def anchored (pattern : Term) : Term :=
  tightCall "CONCAT" [string "^", pattern, string "$"]

/-- The last or first characters of `a`, as many as `b` has, compared with `b`. -/
def sameEnd (function : String) (a b : Term) : Term :=
  between (tightCall function [a, tightCall "LENGTH" [b]]) "=" b

/-- What a function becomes in every dialect; the name is in lower case. -/
def sharedMapping? : String → Option Mapping
  | "like" => some (.binary fun a b => between a " LIKE " b)
  | "ends" => some (.binary (sameEnd "RIGHT"))
  | "todate" => some (.unary fun a => call "DATE" [a])
  | "upper" => some (.unary fun a => call "UPPER" [a])
  | "lower" => some (.unary fun a => call "LOWER" [a])
  | "now" => some (.constant (call "NOW" []))
  | _ => none

/-- What a function becomes in MySQL only; the name is in lower case. -/
def mySqlMapping? : String → Option Mapping
  | "starts" => some (.binary fun a b => between (call "INSTR" [a, b]) "=" (verbatim "1"))
  | "contains" => some (.binary fun a b => between (call "INSTR" [a, b]) ">" (verbatim "0"))
  | "matches" => some (.binary fun a b => between a " REGEXP " (anchored b))
  | "year" => some (.unary fun a => call "YEAR" [a])
  | "month" => some (.unary fun a => call "MONTH" [a])
  | "day" => some (.unary fun a => call "DAY" [a])
  | "hour" => some (.unary fun a => call "HOUR" [a])
  | "minute" => some (.unary fun a => call "MINUTE" [a])
  | "second" => some (.unary fun a => call "SECOND" [a])
  | "millisecond" =>
    some (.unary fun a => between (call "MICROSECOND" [a]) "/" (verbatim "1000"))
  | "quarter" => some (.unary fun a => call "QUARTER" [a])
  | "dayofweek" => some (.unary fun a => call "DAYOFWEEK" [a])
  | "datediff" => some (.binary fun a b => call "DATEDIFF" [a, b])
  | _ => none

/-- What a function becomes in standard SQL; the name is in lower case. -/
def standardMapping? : String → Option Mapping
  | "starts" => some (.binary (sameEnd "LEFT"))
  | "contains" => some (.binary fun a b => between (position b a) ">" (verbatim "0"))
  | "matches" => some (.binary fun a b => between a " ~ " (anchored b))
  | "year" => some (.unary fun a => group (extract "YEAR" a))
  | "month" => some (.unary fun a => group (extract "MONTH" a))
  | "day" => some (.unary fun a => group (extract "DAY" a))
  | "hour" => some (.unary fun a => group (extract "HOUR" a))
  | "minute" => some (.unary fun a => group (extract "MINUTE" a))
  | "second" => some (.unary fun a => call "FLOOR" [extract "SECOND" a])
  | "millisecond" =>
    some (.unary fun a => between (integral (extract "MILLISECONDS" a)) " % " (verbatim "1000"))
  | "quarter" => some (.unary fun a => group (extract "QUARTER" a))
  | "dayofweek" => some (.unary fun a => between (extract "DOW" a) "+" (verbatim "1"))
  | "datediff" =>
    some (.binary fun a b => between (call "DATE" [a]) " - " (call "DATE" [b]))
  | _ => none

/-- What a function becomes in a dialect; the name is in lower case. -/
def mapping? (d : Dialect) (name : String) : Option Mapping :=
  (sharedMapping? name).or (if d = .mySql then mySqlMapping? name else standardMapping? name)

/-- A call of a function with the given arguments. -/
def applyFunction (d : Dialect) (name : String) (args : List Term) : Except Failure Term :=
  match mapping? d name.toLower with
  | none => .ok (call name args)
  | some m =>
    match m.build? args with
    | some t => .ok t
    | none => .error (.argumentCount name m.arity args.length)

end ChartQuery.Sql
