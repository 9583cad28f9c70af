import ChartQuery.Proofs.QueryRecognition
import ChartQuery.Proofs.Writable
import ChartQuery.Proofs.Written

/-!
# Writable clauses

Clauses are writable if their expressions, names and texts are.  Whatever a text holds is writable,
because its tokens are genuine; and a query that is made up from writable clauses is written as
writable clauses again.
-/

namespace ChartQuery.Grammar

open Query (Clauses attached)
open Token (Genuine Quotable Nameable nameable_of_genuine quotable_of_genuine)

/-- Whether the expressions, names and texts of clauses can be written and read back. -/
structure WritableClauses (c : Clauses) : Prop where
  selected : ∀ es, c.selected? = some es → es ≠ [] ∧ ∀ e ∈ es, e.Writable
  filter : ∀ e, c.filter? = some e → e.Writable
  groupBy : ∀ name ∈ c.groupBy, Nameable name
  pivot : ∀ name ∈ c.pivot, Nameable name
  orderBy : ∀ k ∈ c.orderBy, k.expr.Writable
  limit : c.limit < 2 ^ 64
  offset : c.offset < 2 ^ 64
  labels : ∀ x ∈ c.labels, x.1.Writable ∧ Quotable x.2
  formats : ∀ x ∈ c.formats, x.1.Writable ∧ Quotable x.2

/-! ## What genuine tokens stand for -/

/-- Phrases of genuine tokens stand for something with the property `p`, and leave the end of what
there was. -/
def Yields {α : Type} (rule : List Token → α → List Token → Prop) (p : α → Prop) : Prop :=
  ∀ ⦃ts a us⦄, rule ts a us → (∀ t ∈ ts, t.Genuine) → p a ∧ us <:+ ts

section Combinators

variable {α : Type} {rule : List Token → α → List Token → Prop} {p : α → Prop}

/-- Items with commas between them. -/
lemma Yields.separated (h : Yields rule p) :
    Yields (Separated rule) fun as => as ≠ [] ∧ ∀ a ∈ as, p a := by
  intro ts as us hsep hg
  induction hsep with
  | one ha =>
    obtain ⟨hp, hsuffix⟩ := h ha hg
    exact ⟨⟨List.cons_ne_nil _ _, fun b hb => List.mem_singleton.1 hb ▸ hp⟩, hsuffix⟩
  | more ha _ _ ih =>
    obtain ⟨hp, hsuffix⟩ := h ha hg
    have hsuffix := (List.suffix_cons _ _).trans hsuffix
    obtain ⟨⟨-, hall⟩, hrest⟩ := ih fun t ht => hg t (hsuffix.subset ht)
    refine ⟨⟨List.cons_ne_nil _ _, fun b hb => ?_⟩, hrest.trans hsuffix⟩
    rcases List.mem_cons.1 hb with rfl | hb
    · exact hp
    · exact hall b hb

/-- A clause, if what stands for its absence has the property. -/
lemma Yields.clause (h : Yields rule p) {keyword : Token.Kind} {absent : α} (habsent : p absent) :
    Yields (Clause keyword absent rule) p := by
  intro ts a us hclause hg
  cases hclause with
  | absent => exact ⟨habsent, List.suffix_rfl⟩
  | present _ ha =>
    obtain ⟨hp, hsuffix⟩ := h ha fun t ht => hg t (List.mem_cons_of_mem _ ht)
    exact ⟨hp, hsuffix.trans (List.suffix_cons _ _)⟩

/-- A body after the word `by`. -/
lemma Yields.afterBy (h : Yields rule p) : Yields (AfterBy rule) p := by
  rintro ts a us ⟨_, ha⟩ hg
  obtain ⟨hp, hsuffix⟩ := h ha fun t ht => hg t (List.mem_cons_of_mem _ ht)
  exact ⟨hp, hsuffix.trans (List.suffix_cons _ _)⟩

/-- A weaker property. -/
lemma Yields.mono (h : Yields rule p) {q : α → Prop} (hpq : ∀ a, p a → q a) : Yields rule q :=
  fun _ _ _ hrule hg => ⟨hpq _ (h hrule hg).1, (h hrule hg).2⟩

end Combinators

/-- Expressions of genuine tokens are writable. -/
lemma yields_expr : Yields (Derives .sum) Expr.Writable := fun _ _ _ h hg =>
  ⟨h.writable hg, h.suffix⟩

/-- What is selected. -/
lemma yields_selectList :
    Yields SelectList fun sel => ∀ es, sel = some es → es ≠ [] ∧ ∀ e ∈ es, e.Writable := by
  intro ts sel us h hg
  cases h with
  | star _ => exact ⟨fun _ h => absurd h (by simp), List.suffix_cons _ _⟩
  | list h =>
    obtain ⟨hp, hsuffix⟩ := yields_expr.separated h hg
    exact ⟨fun es hes => Option.some.inj hes ▸ hp, hsuffix⟩

/-- A filter. -/
lemma yields_condition : Yields Condition fun filter? => ∀ e, filter? = some e → e.Writable := by
  rintro ts _ us ⟨h⟩ hg
  obtain ⟨hp, hsuffix⟩ := yields_expr h hg
  exact ⟨fun e he => Option.some.inj he ▸ hp, hsuffix⟩

/-- The name of a column. -/
lemma yields_columnName : Yields ColumnName Nameable := by
  rintro ts _ us ⟨ht⟩ hg
  exact ⟨nameable_of_genuine (hg _ List.mem_cons_self) ht, List.suffix_cons _ _⟩

/-- A sort key. -/
lemma yields_sortKey : Yields SortKey fun k => k.expr.Writable := by
  intro ts k us h hg
  cases h with
  | unmarked h => exact yields_expr h hg
  | ascending h _ | descending h _ =>
    obtain ⟨hp, hsuffix⟩ := yields_expr h hg
    exact ⟨hp, (List.suffix_cons _ _).trans hsuffix⟩

/-- A number of rows. -/
lemma yields_count : Yields Count fun n => n < 2 ^ 64 := by
  rintro ts _ us ⟨_, _, _, hlt⟩ _
  exact ⟨hlt, List.suffix_cons _ _⟩

/-- An entry of an attaching clause. -/
lemma yields_entry : Yields Entry fun x => x.1.Writable ∧ Quotable x.2 := by
  rintro ts _ us ⟨h, ht⟩ hg
  obtain ⟨hp, hsuffix⟩ := yields_expr h hg
  have htext := quotable_of_genuine (hg _ (hsuffix.subset List.mem_cons_self)) ht
  exact ⟨⟨hp, htext⟩, (List.suffix_cons _ _).trans hsuffix⟩

/-- **What a text holds is writable.** -/
theorem Statement.writable {ts : List Token} {c : Clauses} (h : Statement ts c)
    (hg : ∀ t ∈ ts, t.Genuine) : WritableClauses c := by
  cases h with
  | mk h₀ h₁ h₂ h₃ h₄ h₅ h₆ h₇ h₈ h₉ heot =>
    have hnames := yields_columnName.separated.mono fun _ h => h.2
    have hkeys := yields_sortKey.separated.mono fun _ h => h.2
    have hentries := yields_entry.separated.mono fun _ h => h.2
    obtain ⟨p₀, s₀⟩ := yields_selectList.clause (by simp) h₀ hg
    replace hg := fun t ht => hg t (s₀.subset ht)
    obtain ⟨p₁, s₁⟩ := yields_condition.clause (by simp) h₁ hg
    replace hg := fun t ht => hg t (s₁.subset ht)
    obtain ⟨p₂, s₂⟩ := hnames.afterBy.clause (by simp) h₂ hg
    replace hg := fun t ht => hg t (s₂.subset ht)
    obtain ⟨p₃, s₃⟩ := hnames.clause (by simp) h₃ hg
    replace hg := fun t ht => hg t (s₃.subset ht)
    obtain ⟨p₄, s₄⟩ := hkeys.afterBy.clause (by simp) h₄ hg
    replace hg := fun t ht => hg t (s₄.subset ht)
    obtain ⟨p₅, s₅⟩ := yields_count.clause (by decide) h₅ hg
    replace hg := fun t ht => hg t (s₅.subset ht)
    obtain ⟨p₆, s₆⟩ := yields_count.clause (by decide) h₆ hg
    replace hg := fun t ht => hg t (s₆.subset ht)
    obtain ⟨p₇, s₇⟩ := hentries.clause (by simp) h₇ hg
    replace hg := fun t ht => hg t (s₇.subset ht)
    obtain ⟨p₈, -⟩ := hentries.clause (by simp) h₈ hg
    exact ⟨p₀, p₁, p₂, p₃, p₄, p₅, p₆, p₇, p₈⟩

end ChartQuery.Grammar
