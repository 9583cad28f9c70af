import ChartQuery.Proofs.ExprRecognition
import ChartQuery.Proofs.Scanning
import ChartQuery.Proofs.Unsigned

/-!
# Writable expressions

The expressions that a text can stand for are writable: their literals and names are of the form
that the scanner gives them, and their operators carry a symbol of their own.  Conversely, the
printed text of a writable expression, wherever it stands, is a phrase for its unsigned form:
in parentheses a value, without them an expression of the loosest level.
-/

namespace ChartQuery

open Token (Genuine Quotable Nameable Numeric Writes Single Breaks NoPair keyword?
  nameable_of_genuine quotable_of_genuine)
open Grammar

namespace Expr

/-! ## Writable expressions -/

/-- The operators that are words, with their spelling. -/
inductive WordSpelling : Operator → String → Prop
  | contains : WordSpelling .contains "contains"
  | regularExpression : WordSpelling .matches "matches"
  | like : WordSpelling .like "like"
  | startsWith : WordSpelling .startsWith "starts"
  | endsWith : WordSpelling .endsWith "ends"

/-- The expressions that a text can stand for. -/
inductive Writable : Expr → Prop
  | number {text} : Numeric text → Writable (.leaf .number text)
  | string {text} : Quotable text → Writable (.leaf .string text)
  | truth (b) : Writable (.ofBool b)
  | literal {k kind keyword value} : Temporal k kind → keyword? keyword = some k →
      Quotable value → Writable (.literal kind keyword value)
  | column {name} : Nameable name → Writable (.leaf .name name)
  | aggregate {name column} : Nameable name → isAggregateName name = true → Nameable column →
      Writable (.call name [.leaf .name column])
  | call {name args} : Nameable name → isAggregateName name = false →
      (∀ e ∈ args, Writable e) → Writable (.call name args)
  | positive {e} : Writable e → Writable (.unary .pos "+" e)
  | negative {e} : Writable e → Writable (.unary .neg "-" e)
  | not {e} : Writable e → Writable (.unary .not "not" e)
  | isNull {e} : Writable e → Writable (.unary .isNull "is null" e)
  | isNotNull {e} : Writable e → Writable (.unary .isNotNull "is not null" e)
  | joined {level k op operand s l r} : Joins level k op operand → keyword? s = some k →
      Writable l → Writable r → Writable (.binary op s l r)
  | word {op s l r} : WordSpelling op s → Writable l → Writable r → Writable (.binary op s l r)

/-- A negated writable expression is writable. -/
lemma Writable.negated {e : Expr} (h : e.Writable) (count : Nat) :
    (Grammar.negated count e).Writable := by
  unfold Grammar.negated
  split
  · exact .not h
  · exact h

/-- A writable unary plus has its symbol and one operand. -/
lemma Writable.eq_positive {e : Expr} (h : e.Writable) (hkind : e.kind = .op .pos) :
    ∃ operand, e = .unary .pos "+" operand := by
  cases h with
  | positive _ => exact ⟨_, rfl⟩
  | joined hjoins _ _ _ =>
    cases hkind
    cases hjoins
  | word hword _ _ =>
    cases hkind
    cases hword
  | number | string | truth | literal | column | aggregate | call | negative | not | isNull
  | isNotNull => cases hkind

end Expr

namespace Grammar

/-- A genuine sign is spelled in one way. -/
lemma Sign.text_eq {t : Token} {op : Operator} (h : Sign t.kind op) (ht : t.Genuine) :
    op = .pos ∧ t.text = "+" ∨ op = .neg ∧ t.text = "-" := by
  have hplus : ∀ p ∈ Token.spellings, p.2 = .plus → p.1 = "+" := by decide
  have hminus : ∀ p ∈ Token.spellings, p.2 = .minus → p.1 = "-" := by decide
  generalize hk : t.kind = k at h
  cases h with
  | plus =>
    have hkind : keyword? t.text = some .plus := by simpa [Genuine, hk] using ht
    exact .inl ⟨rfl, hplus _ (Token.mem_spellings hkind) rfl⟩
  | minus =>
    have hkind : keyword? t.text = some .minus := by simpa [Genuine, hk] using ht
    exact .inr ⟨rfl, hminus _ (Token.mem_spellings hkind) rfl⟩

/-- A genuine operator between two phrases is spelled like one of its kind. -/
lemma Joins.keyword?_eq {t : Token} {level operand : Expr.Level} {op : Operator}
    (h : Joins level t.kind op operand) (ht : t.Genuine) : keyword? t.text = some t.kind := by
  unfold Genuine at ht
  generalize hk : t.kind = k at h ht ⊢
  cases h <;> exact ht

/-- A genuine keyword of a temporal literal is spelled like one of its kind. -/
lemma Temporal.keyword?_eq {t : Token} {kind : TemporalKind} (h : Temporal t.kind kind)
    (ht : t.Genuine) : keyword? t.text = some t.kind := by
  unfold Genuine at ht
  generalize hk : t.kind = k at h ht ⊢
  cases h <;> exact ht

/-- A word that is an operator has the spelling of the operator, in lower case. -/
lemma WordOperator.spelling {t : Token} {ts us : List Token} {op : Operator}
    (h : WordOperator t ts op us) : Expr.WordSpelling op t.text.toLower := by
  cases h with
  | contains ht => exact (Token.isWord_iff.1 ht).2 ▸ .contains
  | regularExpression ht => exact (Token.isWord_iff.1 ht).2 ▸ .regularExpression
  | like ht => exact (Token.isWord_iff.1 ht).2 ▸ .like
  | startsWith ht _ => exact (Token.isWord_iff.1 ht).2 ▸ .startsWith
  | endsWith ht _ => exact (Token.isWord_iff.1 ht).2 ▸ .endsWith

/-- A word that is an operator leaves the end of what there was. -/
lemma WordOperator.suffix {t : Token} {ts us : List Token} {op : Operator}
    (h : WordOperator t ts op us) : us <:+ ts := by
  cases h with
  | contains | regularExpression | like => exact List.suffix_rfl
  | startsWith | endsWith => exact List.suffix_cons _ _

mutual

/-- **Phrases of genuine tokens stand for writable expressions.** -/
theorem Derives.writable : ∀ {level ts e us}, Derives level ts e us →
    (∀ t ∈ ts, t.Genuine) → e.Writable
  | _, _, _, _, .sum h hc | _, _, _, _, .product h hc | _, _, _, _, .logic h hc
  | _, _, _, _, .comparison h hc => fun hg =>
    hc.writable (h.writable hg) fun t ht => hg t (h.suffix.subset ht)
  | _, _, _, _, .negation _ h => fun hg =>
    (h.writable fun t ht => hg t (List.mem_append_right _ ht)).negated _
  | _, _, _, _, .isNull h _ _ => fun hg => .isNull (h.writable hg)
  | _, _, _, _, .isNotNull h _ _ _ => fun hg => .isNotNull (h.writable hg)
  | _, _, _, _, .word h hop hr => fun hg => by
    have hsuffix := (hop.suffix.trans (List.suffix_cons _ _)).trans h.suffix
    exact .word hop.spelling (h.writable hg) (hr.writable fun t ht => hg t (hsuffix.subset ht))
  | _, _, _, _, .signed hsign h => fun hg => by
    have he := h.writable fun t ht => hg t (List.mem_cons_of_mem _ ht)
    rcases hsign.text_eq (hg _ List.mem_cons_self) with ⟨rfl, htext⟩ | ⟨rfl, htext⟩
    · rw [htext]
      exact .positive he
    · rw [htext]
      exact .negative he
  | _, _, _, _, .parens _ h _ => fun hg => h.writable fun t ht => hg t (List.mem_cons_of_mem _ ht)
  | _, _, _, _, .truth _ => fun _ => .truth true
  | _, _, _, _, .falsity _ => fun _ => .truth false
  | _, _, _, _, .string ht => fun hg => .string (quotable_of_genuine (hg _ List.mem_cons_self) ht)
  | _, _, _, _, .number ht => fun hg => by
    have hnumber := hg _ List.mem_cons_self
    exact .number (by simpa [Genuine, ht] using hnumber)
  | _, _, _, _, .literal hkind hs => fun hg =>
    .literal hkind (hkind.keyword?_eq (hg _ List.mem_cons_self))
      (quotable_of_genuine (hg _ (by simp)) hs)
  | _, _, _, _, .column ht => fun hg => .column (nameable_of_genuine (hg _ List.mem_cons_self) ht)
  | _, _, _, _, .aggregate hname hagg _ hcolumn _ => fun hg =>
    .aggregate (nameable_of_genuine (hg _ List.mem_cons_self) hname) hagg
      (nameable_of_genuine (hg _ (by simp)) hcolumn)
  | _, _, _, _, .emptyCall hname hagg _ _ => fun hg =>
    .call (nameable_of_genuine (hg _ List.mem_cons_self) hname) hagg fun e he => nomatch he
  | _, _, _, _, .call hname hagg _ h _ => fun hg => by
    have hargs := h.writable fun t ht =>
      hg t (List.mem_cons_of_mem _ (List.mem_cons_of_mem _ ht))
    exact .call (nameable_of_genuine (hg _ List.mem_cons_self) hname) hagg hargs

/-- A chain of genuine tokens after a writable expression stands for a writable expression. -/
theorem Continues.writable : ∀ {level l ts e us}, Continues level l ts e us → l.Writable →
    (∀ t ∈ ts, t.Genuine) → e.Writable
  | _, _, _, _, _, .stop => fun hl _ => hl
  | _, _, _, _, _, .step hjoins h hc => fun hl hg => by
    have hr := h.writable fun t ht => hg t (List.mem_cons_of_mem _ ht)
    have hop := hjoins.keyword?_eq (hg _ List.mem_cons_self)
    exact hc.writable (.joined hjoins hop hl hr) fun t ht =>
      hg t (List.mem_cons_of_mem _ (h.suffix.subset ht))

/-- Arguments of genuine tokens stand for writable expressions. -/
theorem Arguments.writable : ∀ {ts es us}, Arguments ts es us → (∀ t ∈ ts, t.Genuine) →
    ∀ e ∈ es, e.Writable
  | _, _, _, .one h => fun hg e he => List.mem_singleton.1 he ▸ h.writable hg
  | _, _, _, .more h _ ha => fun hg e he => by
    have hfirst := h.writable hg
    have hmore := ha.writable fun t ht => hg t (h.suffix.subset (List.mem_cons_of_mem _ ht))
    rcases List.mem_cons.1 he with rfl | he
    · exact hfirst
    · exact hmore e he

end

end Grammar

end ChartQuery
