import ChartQuery.Expr
import ChartQuery.Token.Scan

/-!
# Expressions as text of the query language

Every compound expression is put into parentheses except, where that is asked for, the outermost.
Names are quoted only where they would not be read back as names.
-/

namespace ChartQuery

/-! ### Quoting -/

/-- Whether a name is read as a name when it is written bare. -/
def isPlainName (name : String) : Bool :=
  match name.toList with
  | [] => false
  | first :: rest =>
    !first.isDigit && (first :: rest).all Token.isNameChar &&
      (Token.keyword? name.toLower).isNone

/-- A name as it is written in a query: bare where possible, else between back quotes. -/
def quoteName (name : String) : String :=
  if isPlainName name then name else "\x60" ++ name ++ "\x60"

/-- A string as it is written in a query: between double quotes if it holds a single quote, else
between single quotes. -/
def quoteString (text : String) : String :=
  if text.toList.contains '\x27' then "\x22" ++ text ++ "\x22" else "'" ++ text ++ "'"

/-! ### Printing -/

namespace Expr

/-- The text in parentheses, or the text alone. -/
def parens (wrap : Bool) (inner : String) : String :=
  if wrap then "(" ++ inner ++ ")" else inner

/-- The printed operand at some place, nothing where there is none. -/
def operand (printed : List String) (i : Nat) : String := printed.getD i ""

/-- An operator with its symbol, given its printed operands.  The unary plus is not written; its
operand takes its place, parentheses included, and is not printed here. -/
def printOperator (wrap : Bool) (op : Operator) (symbol : String) (printed : List String) :
    String :=
  let left := operand printed 0
  let right := operand printed 1
  match op with
  | .pos => left
  | .neg => parens wrap ("-" ++ left)
  | .not => parens wrap ("not " ++ left)
  | .isNull => parens wrap (left ++ " is null")
  | .isNotNull => parens wrap (left ++ " is not null")
  | .startsWith | .endsWith => parens wrap (left ++ " " ++ symbol ++ " with " ++ right)
  | .and | .or | .contains | .matches | .like =>
    parens wrap (left ++ " " ++ symbol ++ " " ++ right)
  | _ => parens wrap (left ++ symbol ++ right)

/-- Whether the operands of a node are printed in parentheses: those of a call are not, and the
unary plus hands on what it was asked for itself. -/
def wrapsOperands (wrap : Bool) : Kind → Bool
  | .name => false
  | .op .pos => wrap
  | _ => true

/-- A node given its printed operands. -/
def printNode (wrap : Bool) (kind : Kind) (text : String) (isCall : Bool)
    (printed : List String) : String :=
  match kind with
  | .number | .boolean => text
  | .string => quoteString text
  | .temporal _ => text ++ " " ++ operand printed 0
  | .name => if isCall then quoteName text ++ "(" ++ ", ".intercalate printed ++ ")"
      else quoteName text
  | .op op => printOperator wrap op text printed

mutual

/-- The expression in the query language; `wrap` says whether an outermost operator is put into
parentheses. -/
def print (wrap : Bool) : Expr → String
  | ⟨kind, text, args, emptyCall⟩ =>
    printNode wrap kind text (!args.isEmpty || emptyCall)
      (printAll (wrapsOperands wrap kind) args)

/-- The expressions of a list in the query language, each on its own. -/
def printAll (wrap : Bool) : List Expr → List String
  | [] => []
  | e :: es => print wrap e :: printAll wrap es

end

/-- A list is printed element by element. -/
theorem printAll_eq_map (wrap : Bool) (es : List Expr) :
    printAll wrap es = es.map (print wrap) := by
  induction es with
  | nil => rfl
  | cons e es ih => simp [printAll, ih]

/-- The expression in the query language. -/
def toText (e : Expr) : String := e.print true

/-- The identifier of a result column: the name of a bare column, else the printed expression. -/
def columnId (e : Expr) : String := if e.isBareName then e.text else e.toText

end Expr

end ChartQuery
