import ChartQuery.Proofs.Progress
import ChartQuery.Table.Conversion
import Mathlib.Data.List.Basic
import Mathlib.Tactic.Common

/-!
# Tables as they are shown

Cells are converted column by column, over all rows.  If this work comes to its end, each cell has
been converted once and on its own: the cell that is shown at some place of a row depends on the
column and on the cell that were there before, and on nothing else.

One column is treated in `shownFrom_convertAt`.  Columns that are converted one after another put
their changes side by side, so all of them together follow by induction on the columns.
-/

namespace ChartQuery.Table

variable {o : FormatOptions} {i : Nat} {c : Column} {cs : List Column} {r r' s s' : Row}

/-! ## Cells and rows -/

/-- `Shown o c a b`: the cell `b` is what the column shows of the cell `a`. -/
def Shown (o : FormatOptions) (c : Column) (a b : Cell) : Prop :=
  ∃ k converted, Conversion.ofColumn c = .ok k ∧ k.apply a = .ok converted ∧
    b = o.restrict (c.type == .string) converted

/-- A column shows a cell in one way. -/
lemma Shown.unique {a b b' : Cell} (h : Shown o c a b) (h' : Shown o c a b') : b = b' := by
  obtain ⟨k, d, hk, hd, rfl⟩ := h
  obtain ⟨k', d', hk', hd', rfl⟩ := h'
  have hsame : k = k' := Except.ok.inj (hk.symm.trans hk')
  subst hsame
  have hconverted : d = d' := Except.ok.inj (hd.symm.trans hd')
  rw [hconverted]

/-- `ShownFrom o i cs r r'`: from the place `i` on, the row `r'` has what the columns show of the
cells of the row `r`.  The cells at all other places are the same. -/
structure ShownFrom (o : FormatOptions) (i : Nat) (cs : List Column) (r r' : Row) : Prop where
  length_eq : r'.length = r.length
  outside : ∀ j, j < i ∨ i + cs.length ≤ j → r'[j]? = r[j]?
  within : ∀ m c a, cs[m]? = some c → r[i + m]? = some a →
    ∃ b, r'[i + m]? = some b ∧ Shown o c a b

/-- No columns show a row as it is. -/
lemma shownFrom_nil : ShownFrom o i [] r r :=
  ⟨rfl, fun _ _ => rfl, fun _ _ _ hc => by cases hc⟩

/-- The cell at the place of one column is converted, and no other. -/
lemma shownFrom_convertAt {k : Conversion} (hk : Conversion.ofColumn c = .ok k)
    (h : convertAt k o (c.type == .string) i r = .ok r') : ShownFrom o i [c] r r' := by
  unfold convertAt at h
  cases hcell : r[i]? with
  | none =>
    rw [hcell] at h
    cases h
    refine ⟨rfl, fun _ _ => rfl, fun m _ a hc ha => ?_⟩
    have hm : m = 0 := by
      have hlt := (List.getElem?_eq_some_iff.1 hc).1
      simp only [List.length_singleton] at hlt
      omega
    rw [hm, Nat.add_zero, hcell] at ha
    cases ha
  | some a =>
    rw [hcell] at h
    obtain ⟨d, hd, hset⟩ := bind_eq_ok.1 h
    cases hset
    have hi : i < r.length := (List.getElem?_eq_some_iff.1 hcell).1
    refine ⟨List.length_set, fun j hj => ?_, fun m c' a' hc ha => ?_⟩
    · have hne : i ≠ j := by
        simp only [List.length_singleton] at hj
        omega
      exact List.getElem?_set_ne hne
    · have hm : m = 0 := by
        have hlt := (List.getElem?_eq_some_iff.1 hc).1
        simp only [List.length_singleton] at hlt
        omega
      subst hm
      rw [Nat.add_zero, hcell] at ha
      cases ha
      cases hc
      exact ⟨_, List.getElem?_set_self hi, k, d, hk, hd, rfl⟩

/-- A column and those after it are shown side by side. -/
lemma ShownFrom.cons {r₁ : Row} (h : ShownFrom o i [c] r r₁) (h' : ShownFrom o (i + 1) cs r₁ r') :
    ShownFrom o i (c :: cs) r r' := by
  refine ⟨h'.length_eq.trans h.length_eq, fun j hj => ?_, fun m c' a hc ha => ?_⟩
  · rw [List.length_cons] at hj
    have hlater : r'[j]? = r₁[j]? := h'.outside j (by omega)
    have hfirst : r₁[j]? = r[j]? := h.outside j (by rw [List.length_singleton]; omega)
    rw [hlater, hfirst]
  · cases m with
    | zero =>
      obtain ⟨b, hb, hshown⟩ := h.within 0 c' a hc ha
      have hkept : r'[i + 0]? = r₁[i + 0]? := h'.outside (i + 0) (by omega)
      exact ⟨b, hkept.trans hb, hshown⟩
    | succ m =>
      have hkept : r₁[i + (m + 1)]? = r[i + (m + 1)]? :=
        h.outside (i + (m + 1)) (by rw [List.length_singleton]; omega)
      have hplace : i + (m + 1) = i + 1 + m := by omega
      rw [← hkept, hplace] at ha
      rw [hplace]
      exact h'.within m c' a hc ha

/-! ## Rows that agree in part -/

/-- Rows that have the same cell at a place are shown with the same cell there. -/
lemma ShownFrom.getElem?_congr (hr : ShownFrom o 0 cs r r') (hs : ShownFrom o 0 cs s s') {j : Nat}
    (h : r[j]? = s[j]?) : r'[j]? = s'[j]? := by
  by_cases hj : j < cs.length
  · have hcolumn : cs[j]? = some cs[j] := List.getElem?_eq_getElem hj
    cases hcell : r[j]? with
    | none =>
      have hcell' : s[j]? = none := h.symm.trans hcell
      rw [List.getElem?_eq_none_iff] at hcell hcell'
      rw [← hr.length_eq] at hcell
      rw [← hs.length_eq] at hcell'
      rw [List.getElem?_eq_none hcell, List.getElem?_eq_none hcell']
    | some a =>
      have hcell' : s[j]? = some a := h.symm.trans hcell
      rw [← Nat.zero_add j] at hcell hcell'
      obtain ⟨b, hb, hshown⟩ := hr.within j _ a hcolumn hcell
      obtain ⟨b', hb', hshown'⟩ := hs.within j _ a hcolumn hcell'
      rw [Nat.zero_add] at hb hb'
      rw [hb, hb', hshown.unique hshown']
  · have hbeyond : 0 + cs.length ≤ j := by omega
    rw [hr.outside j (.inr hbeyond), hs.outside j (.inr hbeyond), h]

/-- Rows that agree in a run of cells are shown with the same run of cells. -/
lemma ShownFrom.run_congr (hr : ShownFrom o 0 cs r r') (hs : ShownFrom o 0 cs s s') {n m : Nat}
    (h : (r.drop n).take m = (s.drop n).take m) : (r'.drop n).take m = (s'.drop n).take m := by
  refine List.ext_getElem? fun j => ?_
  have hcells := congrArg (·[j]?) h
  simp only [List.getElem?_take, List.getElem?_drop] at hcells ⊢
  by_cases hj : j < m
  · rw [if_pos hj, if_pos hj] at hcells ⊢
    exact hr.getElem?_congr hs hcells
  · rw [if_neg hj, if_neg hj]

/-! ## Tables -/

/-- Lists that are related one after another are related element by element. -/
lemma forall₂_chain {α β γ : Type} {R : α → β → Prop} {S : β → γ → Prop} {T : α → γ → Prop}
    (hchain : ∀ a b c, R a b → S b c → T a c) {as : List α} {bs : List β} {cs : List γ}
    (h : List.Forall₂ R as bs) (h' : List.Forall₂ S bs cs) : List.Forall₂ T as cs := by
  induction h generalizing cs with
  | nil =>
    cases h'
    exact .nil
  | cons hab _ ih =>
    cases h' with
    | cons hbc h' => exact .cons (hchain _ _ _ hab hbc) (ih h')

/-- Columns that are converted one after another change every row on its own. -/
lemma shownFrom_convertColumns {rows rows' : List Row}
    (h : (convertColumns o i cs rows).toExcept = .ok rows') :
    List.Forall₂ (ShownFrom o i cs) rows rows' := by
  induction cs generalizing i rows with
  | nil =>
    cases h
    exact List.forall₂_same.2 fun _ _ => shownFrom_nil
  | cons c cs ih =>
    obtain ⟨rows₁, hfirst, hlater⟩ := Progress.toExcept_andThen_eq_ok.1 h
    unfold convertColumn at hfirst
    cases hk : Conversion.ofColumn c with
    | error f =>
      rw [hk] at hfirst
      cases hfirst
    | ok k =>
      rw [hk] at hfirst
      have hrows : List.Forall₂ (ShownFrom o i [c]) rows rows₁ :=
        (Progress.toExcept_each_eq_ok.1 hfirst).imp fun _ _ hrow => shownFrom_convertAt hk hrow
      exact forall₂_chain (fun _ _ _ hrow hrow' => hrow.cons hrow') hrows (ih hlater)

/-- **A table is shown cell by cell.** -/
theorem shownFrom_applyFormats {t t' : Table} (h : (applyFormats o t).toExcept = .ok t') :
    t.Rectangular ∧ t'.columns = t.columns ∧
      List.Forall₂ (ShownFrom o 0 t.columns) t.rows t'.rows := by
  unfold applyFormats at h
  cases hshape : t.checkShape with
  | error f =>
    rw [hshape] at h
    cases h
  | ok _ =>
    rw [hshape] at h
    obtain ⟨rows, hrows, rfl⟩ := Progress.toExcept_map_eq_ok.1 h
    exact ⟨checkShape_eq_ok hshape, rfl, shownFrom_convertColumns hrows⟩

/-- Selections are put on the columns that there are. -/
lemma length_selectColumns (ss : List Selection) (cs : List Column) :
    (selectColumns ss cs).length = cs.length := by
  induction ss generalizing cs with
  | nil => rfl
  | cons s ss ih =>
    cases cs with
    | nil => rfl
    | cons c cs => rw [selectColumns, List.length_cons, List.length_cons, ih]

/-- Labels and formats neither add nor remove columns. -/
lemma length_annotateColumns {q : Query} {cs' : List Column}
    (h : annotateColumns q cs = .ok cs') : cs'.length = cs.length := by
  unfold annotateColumns at h
  by_cases hstar : q.star = true
  · rw [if_pos hstar] at h
    cases h
    induction q.selections generalizing cs with
    | nil => rfl
    | cons s ss ih =>
      rw [List.foldl_cons, ih, annotateNamed, List.length_map]
  · rw [if_neg hstar] at h
    dsimp only at h
    split at h
    · cases h
    · cases h
      rw [List.length_append, length_selectColumns, ← List.length_append, List.take_append_drop]

/-- Labels decide on the columns, one by one, and leave the rows as they are. -/
lemma assignLabels_eq_ok {q : Query} {t t' : Table} (h : (assignLabels q t).toExcept = .ok t') :
    (∃ cs, annotateColumns q t.columns = .ok cs ∧
      List.Forall₂ (fun c c' => c.resolve = .ok c') cs t'.columns) ∧ t'.rows = t.rows := by
  unfold assignLabels at h
  cases hcs : annotateColumns q t.columns with
  | error f =>
    rw [hcs] at h
    cases h
  | ok cs =>
    rw [hcs] at h
    obtain ⟨cs', hcs', rfl⟩ := Progress.toExcept_map_eq_ok.1 h
    exact ⟨⟨cs, rfl, Progress.toExcept_each_eq_ok.1 hcs'⟩, rfl⟩

/-- `IsConverted q raw shown`: the table `shown` is what is shown of the answer `raw` to a query.  It
has the labelled columns, and each cell is what its column makes of the cell of the answer. -/
structure IsConverted (q : Query) (raw shown : Table) : Prop where
  labelled : (assignLabels q raw).toExcept = .ok { shown with rows := raw.rows }
  rectangular : ∀ r ∈ raw.rows, r.length = shown.columns.length
  rows : List.Forall₂ (ShownFrom ⟨false, false⟩ 0 shown.columns) raw.rows shown.rows

/-- What is shown has the columns of the answer. -/
lemma IsConverted.length_columns {q : Query} {raw shown : Table} (h : IsConverted q raw shown) :
    shown.columns.length = raw.columns.length := by
  obtain ⟨⟨cs, hcs, hresolved⟩, -⟩ := assignLabels_eq_ok h.labelled
  have hlength : cs.length = shown.columns.length := hresolved.length_eq
  rw [← hlength, length_annotateColumns hcs]

/-- A labelled table whose cells are converted is what is shown. -/
lemma isConverted_of_applyFormats {q : Query} {raw labelled shown : Table}
    (hlabelled : (assignLabels q raw).toExcept = .ok labelled)
    (hshown : (applyFormats ⟨false, false⟩ labelled).toExcept = .ok shown) :
    IsConverted q raw shown := by
  obtain ⟨hrect, hcolumns, hrows⟩ := shownFrom_applyFormats hshown
  obtain ⟨-, hraw⟩ := assignLabels_eq_ok hlabelled
  have hsame : labelled = { shown with rows := raw.rows } := by
    rw [hcolumns, ← hraw]
  rw [hraw, ← hcolumns] at hrows
  refine ⟨hsame ▸ hlabelled, fun r hr => ?_, hrows⟩
  rw [hcolumns]
  exact hrect r (hraw.symm ▸ hr)

end ChartQuery.Table
