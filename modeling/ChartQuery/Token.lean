/-!
# Tokens

The words of the query language: the kinds of token, the table of reserved words and operators,
and the descriptions of the kinds that error messages use.
-/

namespace ChartQuery

/-- The kinds of token.  A reserved word has a kind of its own; `invalid` is text that begins no
token, and `endOfText` stands after the last one. -/
inductive Token.Kind
  | string
  | number
  | identifier
  | endOfText
  | invalid
  | kwAnd
  | kwAsc
  | kwBy
  | kwDate
  | kwDateTime
  | kwDesc
  | kwFalse
  | kwFormat
  | kwGroup
  | kwLabel
  | kwLimit
  | kwNot
  | kwOffset
  | kwOptions
  | kwOr
  | kwOrder
  | kwPivot
  | kwSelect
  | kwTimeOfDay
  | kwTimestamp
  | kwTrue
  | kwWhere
  | eq
  | ne
  | lt
  | gt
  | ge
  | le
  | plus
  | minus
  | times
  | div
  | lparen
  | rparen
  | comma
  deriving DecidableEq, Inhabited, Repr

/-- A token: the one-based offset of its first character, its kind and its text.  The text of a
quoted token is what stands between the quotes, that of a reserved word is in lower case. -/
structure Token where
  pos : Nat
  kind : Token.Kind
  text : String
  deriving DecidableEq, Repr

namespace Token

/-- The token that stands for the end of an empty text before anything was read. -/
def blank : Token := ⟨0, .endOfText, ""⟩

instance : Inhabited Token := ⟨blank⟩

/-- The kinds that compare two values. -/
def Kind.isComparison : Kind → Bool
  | .eq | .ne | .lt | .le | .gt | .ge => true
  | _ => false

/-- The kind as an error message names it. -/
def Kind.describe : Kind → String
  | .string => "a string literal"
  | .number => "a number"
  | .identifier => "an identifier"
  | .endOfText => "the end of statement"
  | .invalid => "a valid token"
  | .kwAnd => "'and'"
  | .kwAsc => "'asc'"
  | .kwBy => "'by'"
  | .kwDate => "'date'"
  | .kwDateTime => "'datetime'"
  | .kwDesc => "'desc'"
  | .kwFalse => "'false'"
  | .kwFormat => "'format'"
  | .kwGroup => "'group'"
  | .kwLabel => "'label'"
  | .kwLimit => "'limit'"
  | .kwNot => "'not'"
  | .kwOffset => "'offset'"
  | .kwOptions => "'options'"
  | .kwOr => "'or'"
  | .kwOrder => "'order'"
  | .kwPivot => "'pivot'"
  | .kwSelect => "'select'"
  | .kwTimeOfDay => "'timeofday'"
  | .kwTimestamp => "'timestamp'"
  | .kwTrue => "'true'"
  | .kwWhere => "'where'"
  | .eq => "'='"
  | .ne => "'!='"
  | .lt => "'<'"
  | .gt => "'>'"
  | .ge => "'>='"
  | .le => "'<='"
  | .plus => "'+'"
  | .minus => "'-'"
  | .times => "'*'"
  | .div => "'/'"
  | .lparen => "'('"
  | .rparen => "')'"
  | .comma => "','"

/-- The kind of a reserved word in lower case or of an operator.  Unequal has two spellings. -/
def keyword? : String → Option Kind
  | "and" => some .kwAnd
  | "asc" => some .kwAsc
  | "by" => some .kwBy
  | "date" => some .kwDate
  | "datetime" => some .kwDateTime
  | "desc" => some .kwDesc
  | "false" => some .kwFalse
  | "format" => some .kwFormat
  | "group" => some .kwGroup
  | "label" => some .kwLabel
  | "limit" => some .kwLimit
  | "not" => some .kwNot
  | "offset" => some .kwOffset
  | "options" => some .kwOptions
  | "or" => some .kwOr
  | "order" => some .kwOrder
  | "pivot" => some .kwPivot
  | "select" => some .kwSelect
  | "timeofday" => some .kwTimeOfDay
  | "timestamp" => some .kwTimestamp
  | "true" => some .kwTrue
  | "where" => some .kwWhere
  | "=" => some .eq
  | "!=" => some .ne
  | "<>" => some .ne
  | "<" => some .lt
  | "<=" => some .le
  | ">" => some .gt
  | ">=" => some .ge
  | "-" => some .minus
  | "+" => some .plus
  | "*" => some .times
  | "/" => some .div
  | "(" => some .lparen
  | ")" => some .rparen
  | "," => some .comma
  | _ => none

/-- Whether the token is an unquoted or quoted name that spells `word` in any mixture of ASCII
cases; `word` is given in lower case. -/
def isWord (t : Token) (word : String) : Bool :=
  t.kind == .identifier && t.text.toLower == word

end Token

end ChartQuery
