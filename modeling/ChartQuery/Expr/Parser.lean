import ChartQuery.Expr
import ChartQuery.Failure

/-!
# Reading expressions

Expressions are read from a list of tokens in six levels.  From the tightest to the loosest these
are values, comparisons, negations, the chains of `and` and `or`, the chains of `*` and `/`, and
the chains of `+` and `-`; logic binds tighter than arithmetic.  A chain associates to the left,
the operators that are words to the right, and an even number of negations is none.

Every reader returns the tokens that it leaves.  The readers call one another on fewer tokens or on
a tighter level, so a number of steps proportional to the number of tokens is enough; `parse`
supplies it.
-/

namespace ChartQuery

/-! ### Readers -/

/-- Something that was read, with the tokens that are left. -/
abbrev Parsed (α : Type) := α × List Token

namespace Token

/-- The first of the tokens; where there is none left, the end of the text. -/
def first : List Token → Token
  | [] => .blank
  | t :: _ => t

/-- Reads one token of the given kind. -/
def expect (kind : Kind) : List Token → Except Failure (Parsed Token)
  | [] => .error (.expected (.kind kind) .blank)
  | t :: ts => if t.kind = kind then .ok (t, ts) else .error (.expected (.kind kind) t)

/-- Reads one token that is the given word. -/
def expectWord (word : String) (what : Expectation) : List Token → Except Failure (Parsed Token)
  | [] => .error (.expected what .blank)
  | t :: ts => if t.isWord word then .ok (t, ts) else .error (.expected what t)

end Token

namespace Expr

open Token (first expect expectWord)

/-! ### Operators of the levels -/

/-- The levels of an expression, from the loosest to the tightest. -/
inductive Level
  | sum
  | product
  | logic
  | negation
  | comparison
  | value
  deriving DecidableEq, Repr

/-- The operator that a kind of token stands for in a chain of some level. -/
def Level.operator? : Level → Token.Kind → Option Operator
  | .sum, .plus => some .plus
  | .sum, .minus => some .minus
  | .product, .times => some .times
  | .product, .div => some .div
  | .logic, .kwAnd => some .and
  | .logic, .kwOr => some .or
  | .comparison, .eq => some .eq
  | .comparison, .ne => some .ne
  | .comparison, .lt => some .lt
  | .comparison, .le => some .le
  | .comparison, .gt => some .gt
  | .comparison, .ge => some .ge
  | _, _ => none

/-- The level of the operands of a chain. -/
def Level.operands : Level → Level
  | .sum => .product
  | .product => .logic
  | .logic => .negation
  | _ => .value

/-- The operators that are words; none of them is reserved. -/
def wordOperator? (t : Token) : Option Operator :=
  if t.kind = .identifier then
    match t.text.toLower with
    | "contains" => some .contains
    | "matches" => some .matches
    | "like" => some .like
    | "starts" => some .startsWith
    | "ends" => some .endsWith
    | _ => none
  else none

/-- The second word of an operator, if it has one. -/
def expectSecondWord (op : Operator) (ts : List Token) : Except Failure (Parsed Unit) :=
  if op = .startsWith ∨ op = .endsWith then do
    let (_, ts) ← expectWord "with" .withWord ts
    .ok ((), ts)
  else .ok ((), ts)

/-- What follows the word `is`: `null` or `not null`. -/
def nullTest (operand : Expr) : List Token → Except Failure (Parsed Expr)
  | [] => .error (.expected .nullOrNot .blank)
  | t :: ts =>
    if t.isWord "null" then .ok (.unary .isNull "is null" operand, ts)
    else if t.kind = .kwNot then do
      let (_, ts) ← expectWord "null" .nullWord ts
      .ok (.unary .isNotNull "is not null" operand, ts)
    else .error (.expected .nullOrNot t)

/-- The kind of the temporal literal that a keyword begins. -/
def temporalKind? : Token.Kind → Option TemporalKind
  | .kwDate => some .date
  | .kwTimeOfDay => some .timeOfDay
  | .kwDateTime => some .dateTime
  | _ => none

/-- The value that a token is on its own. -/
def constant? (t : Token) : Option Expr :=
  match t.kind with
  | .kwTrue => some (.ofBool true)
  | .kwFalse => some (.ofBool false)
  | .string => some (.leaf .string t.text)
  | .number => some (.leaf .number t.text)
  | _ => none

/-- The sign that a token is before a value. -/
def sign? : Token.Kind → Option Operator
  | .plus => some .pos
  | .minus => some .neg
  | _ => none

/-- The argument of an aggregate function and the closing parenthesis: a single column name. -/
def aggregateCall (name : String) (ts : List Token) : Except Failure (Parsed Expr) := do
  let (column, ts) ← expect .identifier ts
  let (_, ts) ← expect .rparen ts
  .ok (.call name [.leaf .name column.text], ts)

/-! ### Levels -/

mutual

/-- Reads an expression of a level in at most so many steps. -/
def read : Nat → Level → List Token → Except Failure (Parsed Expr)
  | 0, _, ts => .error (.unexpected (first ts))
  | n + 1, .negation, ts => do
    let negations := (ts.takeWhile (·.kind == .kwNot)).length
    let (e, ts) ← read n .comparison (ts.dropWhile (·.kind == .kwNot))
    .ok (if negations % 2 = 1 then .unary .not "not" e else e, ts)
  | n + 1, .comparison, ts => do
    let (left, ts) ← read n .value ts
    readComparison n left ts
  | n + 1, .value, ts => readValue n ts
  | n + 1, level, ts => do
    let (left, ts) ← read n level.operands ts
    readChain n level left ts

/-- Reads the operators and operands that continue a chain. -/
def readChain : Nat → Level → Expr → List Token → Except Failure (Parsed Expr)
  | 0, _, _, ts => .error (.unexpected (first ts))
  | _ + 1, _, left, [] => .ok (left, [])
  | n + 1, level, left, t :: ts =>
    match level.operator? t.kind with
    | none => .ok (left, t :: ts)
    | some op => do
      let (right, ts) ← read n level.operands ts
      readChain n level (.binary op t.text left right) ts

/-- Reads what follows the first value of a comparison: a chain of comparison signs, a test for
null, or an operator that is a word with its right side, which is a comparison again. -/
def readComparison : Nat → Expr → List Token → Except Failure (Parsed Expr)
  | 0, _, ts => .error (.unexpected (first ts))
  | _ + 1, left, [] => .ok (left, [])
  | n + 1, left, t :: ts =>
    if t.kind.isComparison then readChain n .comparison left (t :: ts)
    else if t.isWord "is" then nullTest left ts
    else
      match wordOperator? t with
      | none => .ok (left, t :: ts)
      | some op => do
        let (_, ts) ← expectSecondWord op ts
        let (right, ts) ← read n .comparison ts
        .ok (.binary op t.text.toLower left right, ts)

/-- Reads a value. -/
def readValue : Nat → List Token → Except Failure (Parsed Expr)
  | 0, ts => .error (.unexpected (first ts))
  | _ + 1, [] => .error (.unexpected .blank)
  | n + 1, t :: ts =>
    match sign? t.kind with
    | some op => do
      let (operand, ts) ← read n .value ts
      .ok (.unary op t.text operand, ts)
    | none =>
    match constant? t with
    | some e => .ok (e, ts)
    | none =>
    match temporalKind? t.kind with
    | some kind => do
      let (value, ts) ← expect .string ts
      .ok (.literal kind t.text value.text, ts)
    | none =>
    if t.kind = .lparen then do
      let (inner, ts) ← read n .sum ts
      let (_, ts) ← expect .rparen ts
      .ok (inner, ts)
    else if t.kind = .identifier then
      match ts with
      | [] => .ok (.leaf .name t.text, [])
      | u :: us =>
        if u.kind = .lparen then readCall n t.text us else .ok (.leaf .name t.text, u :: us)
    else .error (.unexpected t)

/-- Reads the arguments of a call and its closing parenthesis. -/
def readCall : Nat → String → List Token → Except Failure (Parsed Expr)
  | 0, _, ts => .error (.unexpected (first ts))
  | n + 1, name, ts =>
    if isAggregateName name then aggregateCall name ts
    else if (first ts).kind = .rparen then do
      let (_, ts) ← expect .rparen ts
      .ok (.call name [], ts)
    else do
      let (args, ts) ← readArguments n ts
      let (_, ts) ← expect .rparen ts
      .ok (.call name args, ts)

/-- Reads expressions with commas between them, at least one. -/
def readArguments : Nat → List Token → Except Failure (Parsed (List Expr))
  | 0, ts => .error (.unexpected (first ts))
  | n + 1, ts => do
    let (e, ts) ← read n .sum ts
    if (first ts).kind = .comma then do
      let (es, ts) ← readArguments n ts.tail
      .ok (e :: es, ts)
    else .ok ([e], ts)

end

/-- Reads an expression. -/
def parse (ts : List Token) : Except Failure (Parsed Expr) := read (16 * ts.length + 16) .sum ts

end Expr

end ChartQuery
