/-!
# Expressions

An expression is a tree of nodes that carry a kind and a text.  Two expressions are the same when
their trees are, which is how a label or a format finds the selected expression that it is for.
-/

namespace ChartQuery

/-- The operators of the query language. -/
inductive Operator
  | pos
  | neg
  | plus
  | minus
  | times
  | div
  | eq
  | ne
  | lt
  | le
  | gt
  | ge
  | and
  | or
  | not
  | isNull
  | isNotNull
  | contains
  | matches
  | like
  | startsWith
  | endsWith
  deriving DecidableEq, Inhabited, Repr

/-- The binary operators that are written between their operands without blanks. -/
def Operator.isCompact : Operator → Bool
  | .plus | .minus | .times | .div | .eq | .ne | .lt | .le | .gt | .ge => true
  | _ => false

/-- The three kinds of instant that a literal can be of. -/
inductive TemporalKind
  | date
  | timeOfDay
  | dateTime
  deriving DecidableEq, Inhabited, Repr

/-- The kinds of node: literals, temporal literals, names and operators. -/
inductive Expr.Kind
  | number
  | string
  | boolean
  | temporal (kind : TemporalKind)
  | name
  | op (operator : Operator)
  deriving DecidableEq, Inhabited, Repr

/-- A node.  Its text is the literal as written, the keyword of a temporal literal (whose only
argument is the string), the name of a column or function, or the symbol of an operator.  A name
with arguments is a call; a call without arguments has the mark `emptyCall`. -/
structure Expr where
  kind : Expr.Kind
  text : String
  args : List Expr
  emptyCall : Bool

namespace Expr

/-! ### Equality -/

mutual

/-- Whether two trees are the same. -/
def same : Expr → Expr → Bool
  | ⟨kind, text, args, emptyCall⟩, ⟨kind', text', args', emptyCall'⟩ =>
    kind == kind' && text == text' && sameAll args args' && emptyCall == emptyCall'

/-- Whether two lists hold the same trees in the same order. -/
def sameAll : List Expr → List Expr → Bool
  | [], [] => true
  | e :: es, f :: fs => same e f && sameAll es fs
  | _, _ => false

end

mutual

/-- Trees are found to be the same only if they are equal. -/
theorem eq_of_same : ∀ (e f : Expr), same e f = true → e = f
  | ⟨kind, text, args, emptyCall⟩, ⟨kind', text', args', emptyCall'⟩, h => by
    simp only [same, Bool.and_eq_true, beq_iff_eq] at h
    obtain ⟨⟨⟨rfl, rfl⟩, h⟩, rfl⟩ := h
    rw [eq_of_sameAll args args' h]

/-- Lists of trees are found to be the same only if they are equal. -/
theorem eq_of_sameAll : ∀ (es fs : List Expr), sameAll es fs = true → es = fs
  | [], [], _ => rfl
  | e :: es, f :: fs, h => by
    simp only [sameAll, Bool.and_eq_true] at h
    rw [eq_of_same e f h.1, eq_of_sameAll es fs h.2]
  | [], _ :: _, h => by simp [sameAll] at h
  | _ :: _, [], h => by simp [sameAll] at h

end

mutual

/-- A tree is found to be the same as itself. -/
theorem same_self : ∀ e : Expr, same e e = true
  | ⟨_, _, args, _⟩ => by simp [same, sameAll_self args]

/-- A list of trees is found to be the same as itself. -/
theorem sameAll_self : ∀ es : List Expr, sameAll es es = true
  | [] => rfl
  | e :: es => by simp [sameAll, same_self e, sameAll_self es]

end

/-- Being found the same is equality. -/
theorem same_iff {e f : Expr} : same e f = true ↔ e = f :=
  ⟨eq_of_same e f, fun h => h ▸ same_self e⟩

instance : DecidableEq Expr := fun _ _ => decidable_of_iff _ same_iff

/-! ### Forms -/

/-- A node without arguments. -/
def leaf (kind : Kind) (text : String) : Expr := ⟨kind, text, [], false⟩

instance : Inhabited Expr := ⟨leaf .name ""⟩

/-- A truth value. -/
def ofBool (b : Bool) : Expr := leaf .boolean (if b then "true" else "false")

/-- A call; without arguments it has the mark that keeps it apart from a bare name. -/
def call (name : String) (args : List Expr) : Expr := ⟨.name, name, args, args.isEmpty⟩

/-- A temporal literal with its keyword and the text of its value. -/
def literal (kind : TemporalKind) (keyword value : String) : Expr :=
  ⟨.temporal kind, keyword, [leaf .string value], false⟩

/-- An operator with one operand. -/
def unary (op : Operator) (symbol : String) (operand : Expr) : Expr :=
  ⟨.op op, symbol, [operand], false⟩

/-- An operator with two operands. -/
def binary (op : Operator) (symbol : String) (left right : Expr) : Expr :=
  ⟨.op op, symbol, [left, right], false⟩

/-- Whether the expression is the name of a column. -/
def isBareName (e : Expr) : Bool :=
  e.kind == .name && e.args.isEmpty && !e.emptyCall

/-- Whether the expression is a call. -/
def isCall (e : Expr) : Bool :=
  e.kind == .name && (!e.args.isEmpty || e.emptyCall)

/-- The functions that combine the rows of a group. -/
def aggregateNames : List String := ["avg", "count", "max", "min", "sum"]

/-- Whether a name, in any mixture of ASCII cases, is that of an aggregate function. -/
def isAggregateName (name : String) : Bool := aggregateNames.contains name.toLower

/-- Whether the expression is a call of an aggregate function. -/
def isAggregate (e : Expr) : Bool := e.isCall && isAggregateName e.text

end Expr

end ChartQuery
