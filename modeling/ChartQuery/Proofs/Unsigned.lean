import ChartQuery.Expr.Printer
import Mathlib.Tactic.Common

/-!
# Expressions without unary plus

A unary plus is kept in the tree of an expression, but it is neither printed nor sent to the
database.  `Expr.unsigned` puts the operand in the place of every unary plus.  The printed text does
not tell an expression and its unsigned form apart.
-/

namespace ChartQuery.Expr

/-! ## The unsigned form -/

/-- A node, or its operand if it is a unary plus. -/
def unsignedNode (kind : Kind) (text : String) (args : List Expr) (emptyCall : Bool) : Expr :=
  match kind, args with
  | .op .pos, [operand] => operand
  | _, _ => ⟨kind, text, args, emptyCall⟩

mutual

/-- The expression with every unary plus replaced by its operand. -/
def unsigned : Expr → Expr
  | ⟨kind, text, args, emptyCall⟩ => unsignedNode kind text (unsignedAll args) emptyCall

/-- The unsigned forms of the expressions of a list. -/
def unsignedAll : List Expr → List Expr
  | [] => []
  | e :: es => unsigned e :: unsignedAll es

end

mutual

/-- Whether there is a unary plus anywhere in an expression. -/
def hasPlus : Expr → Bool
  | ⟨kind, _, args, _⟩ => kind == .op .pos || anyHasPlus args

/-- Whether there is a unary plus anywhere in the expressions of a list. -/
def anyHasPlus : List Expr → Bool
  | [] => false
  | e :: es => hasPlus e || anyHasPlus es

end

/-- The unsigned form of a list is taken element by element. -/
lemma unsignedAll_eq_map (es : List Expr) : unsignedAll es = es.map unsigned := by
  induction es with
  | nil => rfl
  | cons e es ih => rw [unsignedAll, ih, List.map_cons]

/-- Only a unary plus is replaced. -/
lemma unsignedNode_of_ne {kind : Kind} (h : kind ≠ .op .pos) (text : String) (args : List Expr)
    (emptyCall : Bool) : unsignedNode kind text args emptyCall = ⟨kind, text, args, emptyCall⟩ := by
  unfold unsignedNode
  split
  · exact absurd rfl h
  · rfl

/-- A unary plus with any number of operands but one is left alone. -/
lemma unsignedNode_of_length {args : List Expr} (h : args.length ≠ 1) (kind : Kind)
    (text : String) (emptyCall : Bool) :
    unsignedNode kind text args emptyCall = ⟨kind, text, args, emptyCall⟩ := by
  unfold unsignedNode
  split
  · exact absurd rfl h
  · rfl

/-- Either a node is a unary plus with one operand and replaced by it, or it is kept, and then so
is every node of its kind with as many arguments. -/
lemma unsignedNode_cases (kind : Kind) (text : String) (args : List Expr) (emptyCall : Bool) :
    (kind = .op .pos ∧ ∃ e, args = [e]) ∨
      ∀ args' : List Expr, args'.length = args.length →
        unsignedNode kind text args' emptyCall = ⟨kind, text, args', emptyCall⟩ := by
  by_cases hkind : kind = .op .pos
  · by_cases hlength : args.length = 1
    · exact .inl ⟨hkind, List.length_eq_one_iff.1 hlength⟩
    · exact .inr fun args' heq => unsignedNode_of_length (heq ▸ hlength) _ _ _
  · exact .inr fun args' _ => unsignedNode_of_ne hkind _ _ _

section Forms

variable (e l r : Expr) (text name : String) (op : Operator)

/-- A leaf is its own unsigned form. -/
@[simp] lemma unsigned_leaf (kind : Kind) : unsigned (leaf kind text) = leaf kind text :=
  unsignedNode_of_length (by decide) kind text false

/-- A truth value is its own unsigned form. -/
@[simp] lemma unsigned_ofBool (b : Bool) : unsigned (ofBool b) = ofBool b := unsigned_leaf _ _

/-- A temporal literal is its own unsigned form. -/
@[simp] lemma unsigned_literal (kind : TemporalKind) (keyword : String) :
    unsigned (literal kind keyword text) = literal kind keyword text := by
  rw [literal, unsigned, unsignedNode_of_ne (by simp), unsignedAll_eq_map, List.map_singleton,
    unsigned_leaf]

/-- The unsigned form of a call has the unsigned arguments. -/
@[simp] lemma unsigned_call (args : List Expr) :
    unsigned (call name args) = call name (args.map unsigned) := by
  rw [call, call, unsigned, unsignedNode_of_ne (by simp), unsignedAll_eq_map, List.isEmpty_map]

/-- The unsigned form of an operator with two operands has the unsigned operands. -/
@[simp] lemma unsigned_binary :
    unsigned (binary op text l r) = binary op text l.unsigned r.unsigned :=
  unsignedNode_of_length (by simp [unsignedAll_eq_map]) _ _ _

/-- A unary plus is replaced by the unsigned form of its operand. -/
@[simp] lemma unsigned_pos : unsigned (unary .pos text e) = e.unsigned := rfl

/-- The unsigned form of any other operator with one operand has the unsigned operand. -/
lemma unsigned_unary (h : op ≠ .pos) : unsigned (unary op text e) = unary op text e.unsigned := by
  rw [unary, unsigned, unsignedNode_of_ne (by simpa using h), unsignedAll_eq_map]
  rfl

end Forms

/-! ## Unary plus and the unsigned form -/

mutual

/-- There is no unary plus with one operand in an unsigned form, so taking it again changes
nothing. -/
theorem unsigned_unsigned : ∀ e : Expr, e.unsigned.unsigned = e.unsigned
  | ⟨kind, text, args, emptyCall⟩ => by
    have hargs := unsignedAll_unsignedAll args
    rw [unsigned]
    rcases unsignedNode_cases kind text (unsignedAll args) emptyCall with ⟨rfl, e, he⟩ | hkeep
    · rw [he] at hargs ⊢
      exact List.head_eq_of_cons_eq hargs
    · rw [hkeep _ rfl, unsigned, hargs, hkeep _ rfl]

/-- The same for the expressions of a list. -/
theorem unsignedAll_unsignedAll : ∀ es : List Expr,
    unsignedAll (unsignedAll es) = unsignedAll es
  | [] => rfl
  | e :: es => by
    rw [unsignedAll, unsignedAll, unsigned_unsigned e, unsignedAll_unsignedAll es]

end

mutual

/-- An expression without unary plus is its own unsigned form. -/
theorem unsigned_eq_self : ∀ {e : Expr}, e.hasPlus = false → e.unsigned = e
  | ⟨kind, text, args, emptyCall⟩, h => by
    rw [hasPlus, Bool.or_eq_false_iff] at h
    rw [unsigned, unsignedAll_eq_self h.2, unsignedNode_of_ne (by simpa using h.1)]

/-- The same for the expressions of a list. -/
theorem unsignedAll_eq_self : ∀ {es : List Expr}, anyHasPlus es = false → unsignedAll es = es
  | [], _ => rfl
  | e :: es, h => by
    rw [anyHasPlus, Bool.or_eq_false_iff] at h
    rw [unsignedAll, unsigned_eq_self h.1, unsignedAll_eq_self h.2]

end

/-! ## What the unsigned form keeps -/

/-- A unary plus with one operand, in its place or replaced, is printed as its operand. -/
lemma print_unsignedNode (wrap : Bool) (kind : Kind) (text : String) (args : List Expr)
    (emptyCall : Bool) :
    (unsignedNode kind text args emptyCall).print wrap =
      print wrap ⟨kind, text, args, emptyCall⟩ := by
  unfold unsignedNode
  split
  · rfl
  · rfl

mutual

/-- **The unary plus is not printed.**  An expression and its unsigned form have the same text. -/
theorem print_unsigned (wrap : Bool) : ∀ e : Expr, e.unsigned.print wrap = e.print wrap
  | ⟨kind, text, args, emptyCall⟩ => by
    have hempty : (unsignedAll args).isEmpty = args.isEmpty := by
      rw [unsignedAll_eq_map, List.isEmpty_map]
    rw [unsigned, print_unsignedNode, print, print,
      printAll_unsignedAll (wrapsOperands wrap kind) args, hempty]

/-- The same for the expressions of a list. -/
theorem printAll_unsignedAll (wrap : Bool) :
    ∀ es : List Expr, printAll wrap (unsignedAll es) = printAll wrap es
  | [] => rfl
  | e :: es => by
    rw [unsignedAll, printAll, printAll, print_unsigned wrap e, printAll_unsignedAll wrap es]

end

/-- The text of an expression is that of its unsigned form. -/
lemma toText_unsigned (e : Expr) : e.unsigned.toText = e.toText := print_unsigned true e

end ChartQuery.Expr
