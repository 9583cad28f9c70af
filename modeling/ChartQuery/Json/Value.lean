import ChartQuery.Numeric.Shortest
import ChartQuery.Text.Hex

/-!
# JSON texts

Values of JSON and their compact text.  Numbers are kept as they are written.
-/

namespace ChartQuery

/-- A value of JSON; the fields of an object keep their order. -/
inductive JsonValue
  | null
  | bool (b : Bool)
  | number (text : String)
  | string (s : String)
  | array (items : List JsonValue)
  | object (fields : List (String × JsonValue))

namespace JsonValue

/-! ### Strings -/

/-- A character as it is written in a string: quotes, backslashes and control characters are
escaped. -/
def escape (c : Char) : List Char :=
  if c = '\x22' then ['\\', '\x22']
  else if c = '\\' then ['\\', '\\']
  else if c = '\x08' then ['\\', 'b']
  else if c = '\t' then ['\\', 't']
  else if c = '\n' then ['\\', 'n']
  else if c = '\x0c' then ['\\', 'f']
  else if c = '\r' then ['\\', 'r']
  else if c.toNat < 32 then
    ['\\', 'u', '0', '0', Text.hexDigit (c.toNat / 16), Text.hexDigit (c.toNat % 16)]
  else [c]

/-- A string with its quotes. -/
def quote (s : String) : String :=
  "\x22" ++ String.ofList (s.toList.flatMap escape) ++ "\x22"

/-! ### Numbers -/

open Numeric in
/-- The text of a positive decimal, which always tells it from an integer: positional with a
fraction if its first digit stands at most five places behind the point and at most sixteen before
it, else with an exponent. -/
def decimalText (d : Decimal) : List Char :=
  let ds := digits d.coefficient
  let point : Int := ds.length + d.exponent
  if -5 < point ∧ point ≤ 16 then
    if d.exponent < 0 then d.positional else d.positional ++ ['.', '0']
  else
    let e := point - 1
    (if ds.length = 1 then ds else ds.take 1 ++ '.' :: ds.drop 1) ++
      'e' :: (if e < 0 then '-' else '+') :: digits e.natAbs

/-- A double precision number; what is no finite number is written as null. -/
def ofBinary64 : Binary64 → JsonValue
  | .nan | .infinite _ => null
  | .finite negative m e =>
    number ((if negative then "-" else "") ++
      (if m = 0 then "0.0" else String.ofList (decimalText (Binary64.shortest .even m e))))

/-- An integer. -/
def ofInt (n : Int) : JsonValue := number (toString n)

/-! ### Printing -/

mutual

/-- The compact text of a value. -/
def print : JsonValue → String
  | null => "null"
  | bool b => if b then "true" else "false"
  | number text => text
  | string s => quote s
  | array items => "[" ++ ",".intercalate (printItems items) ++ "]"
  | object fields => "\x7b" ++ ",".intercalate (printFields fields) ++ "\x7d"

/-- The texts of the values of a list. -/
def printItems : List JsonValue → List String
  | [] => []
  | v :: vs => print v :: printItems vs

/-- The texts of the fields of an object. -/
def printFields : List (String × JsonValue) → List String
  | [] => []
  | (name, v) :: fs => (quote name ++ ":" ++ print v) :: printFields fs

end

/-- The field of an object, if there is a value for it. -/
def optional (name : String) (v? : Option JsonValue) : List (String × JsonValue) :=
  v?.toList.map fun v => (name, v)

end JsonValue

end ChartQuery
