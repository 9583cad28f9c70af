import ChartQuery.Proofs.Written
import Mathlib.Data.List.Sort
import Mathlib.Tactic.Common

/-!
# Attaching labels and formats

Labels and formats are attached one entry after another, each to the first selection of its
expression.  `attach_cases` says all that one entry can do, and everything else about a whole
clause follows from it by induction on the entries.

An attaching clause is in order if the first places of its expressions increase.  The clauses that
are collected from selections after attaching are always in order, and so a clause comes back as it
was exactly if it was in order.
-/

namespace ChartQuery.Query

/-! ## One entry -/

section Selection

variable (which other : Attachment) (text : String) (s : Selection) (e : Expr)

/-- Attaching a text keeps the expression. -/
@[simp] lemma attach_expr : (Selection.attach which text s).expr = s.expr := by
  cases which <;> rfl

/-- What was attached is there. -/
@[simp] lemma text?_attach : Selection.text? which (Selection.attach which text s) = some text := by
  cases which <;> rfl

/-- Attaching a text of one sort keeps the text of the other. -/
lemma text?_attach_of_ne (h : which ≠ other) :
    Selection.text? other (Selection.attach which text s) = Selection.text? other s := by
  cases which <;> cases other
  case label.format | format.label => rfl
  case label.label | format.format => exact absurd rfl h

/-- A selection begins with nothing attached. -/
@[simp] lemma text?_ofExpr : Selection.text? which (.ofExpr e) = none := by
  cases which <;> rfl

/-- The expression of a selection that begins. -/
@[simp] lemma expr_ofExpr : (Selection.ofExpr e).expr = e := rfl

end Selection

/-- Selections that begin have the expressions that they are made of. -/
lemma map_expr_ofExpr (es : List Expr) : (es.map Selection.ofExpr).map Selection.expr = es := by
  rw [List.map_map]
  exact List.map_id es

/-- Whether entries are never attached to selections that are there: the labels of a query of all
columns. -/
def Fresh (which : Attachment) (star : Bool) : Prop := which = .label ∧ star = true

/-- **One entry is attached.**  Either it changes the first selection of its expression and nothing
else, or it becomes a new selection at the end. -/
theorem attach_cases (which : Attachment) (star : Bool) (S : List Selection)
    (x : Expr × String) :
    (¬ Fresh which star ∧ ∃ P s T, S = P ++ s :: T ∧ s.expr = x.1 ∧ x.1 ∉ P.map Selection.expr ∧
      attach which star S x = P ++ Selection.attach which x.2 s :: T) ∨
    ((Fresh which star ∨ x.1 ∉ S.map Selection.expr) ∧
      attach which star S x = S ++ [Selection.attach which x.2 (.ofExpr x.1)]) := by
  by_cases hfresh : which = .label ∧ star = true
  · exact .inr ⟨.inl hfresh, by simp [attach, hfresh]⟩
  · cases hfind : S.findIdx? (·.expr == x.1) with
    | none =>
      have hnone : x.1 ∉ S.map Selection.expr := by
        simpa [List.findIdx?_eq_none_iff] using hfind
      refine .inr ⟨.inr hnone, ?_⟩
      unfold attach
      dsimp only
      rw [if_neg hfresh, hfind]
    | some i =>
      obtain ⟨hi, hexpr, hbefore⟩ := List.findIdx?_eq_some_iff_getElem.1 hfind
      obtain ⟨P, s, T, hS, hlength, hmodify⟩ :=
        List.exists_of_modify (Selection.attach which x.2) hi
      subst hS hlength
      refine .inl ⟨hfresh, P, s, T, rfl, by simpa using hexpr, ?_, ?_⟩
      · intro hmem
        obtain ⟨p, hp, hpx⟩ := List.mem_map.1 hmem
        obtain ⟨j, hj, hjp⟩ := List.mem_iff_getElem.1 hp
        refine hbefore j hj ?_
        rw [List.getElem_append_left hj, hjp, hpx]
        exact beq_self_eq_true x.1
      · unfold attach
        dsimp only
        rw [if_neg hfresh, hfind]
        exact hmodify

/-! ## The expressions of the selections -/

/-- The list with an element at its end, unless it is in the list. -/
def extend (es : List Expr) (e : Expr) : List Expr := if e ∈ es then es else es ++ [e]

/-- A list is not extended by what is in it. -/
lemma foldl_extend_of_subset {es fs : List Expr} (h : fs ⊆ es) : fs.foldl extend es = es := by
  induction fs with
  | nil => rfl
  | cons f fs ih =>
    obtain ⟨hf, hfs⟩ := List.cons_subset.1 h
    rw [List.foldl_cons, extend, if_pos hf, ih hfs]

/-- An element in front of a list stays there if the list is not extended by it. -/
lemma foldl_extend_cons {e : Expr} {es fs : List Expr} (h : e ∉ fs) :
    fs.foldl extend (e :: es) = e :: fs.foldl extend es := by
  induction fs generalizing es with
  | nil => rfl
  | cons f fs ih =>
    obtain ⟨hf, hfs⟩ := not_or.1 (fun hmem => h (List.mem_cons.2 hmem))
    have hextend : extend (e :: es) f = e :: extend es f := by
      unfold extend
      by_cases hmem : f ∈ es
      · rw [if_pos hmem, if_pos (List.mem_cons_of_mem e hmem)]
      · have hcons : f ∉ e :: es := fun h => by
          rcases List.mem_cons.1 h with rfl | h
          · exact hf rfl
          · exact hmem h
        rw [if_neg hmem, if_neg hcons, List.cons_append]
    rw [List.foldl_cons, List.foldl_cons, hextend, ih hfs]

/-- A list is extended by nothing but the elements of the other. -/
lemma mem_foldl_extend {e : Expr} {es fs : List Expr} :
    e ∈ fs.foldl extend es ↔ e ∈ es ∨ e ∈ fs := by
  induction fs generalizing es with
  | nil => simp
  | cons f fs ih =>
    have hextend : e ∈ extend es f ↔ e ∈ es ∨ e = f := by
      unfold extend
      split
      · next hf => exact ⟨.inl, fun h => h.elim id fun heq => heq ▸ hf⟩
      · simp
    rw [List.foldl_cons, ih, hextend, List.mem_cons, or_assoc]

/-- An entry extends the expressions by its own, unless a selection of it is there. -/
lemma map_expr_attach {which : Attachment} {star : Bool} (h : ¬ Fresh which star)
    (S : List Selection) (x : Expr × String) :
    (attach which star S x).map Selection.expr = extend (S.map Selection.expr) x.1 := by
  rcases attach_cases which star S x with
    ⟨-, P, s, T, rfl, hs, -, heq⟩ | ⟨hfresh | hnone, heq⟩
  · have hmem : x.1 ∈ (P ++ s :: T).map Selection.expr := by simp [hs]
    rw [heq, extend, if_pos hmem]
    simp
  · exact absurd hfresh h
  · rw [heq, extend, if_neg hnone]
    simp

/-- The entries of a clause extend the expressions by their own. -/
lemma map_expr_foldl {which : Attachment} {star : Bool} (h : ¬ Fresh which star)
    (S : List Selection) (X : List (Expr × String)) :
    (X.foldl (attach which star) S).map Selection.expr =
      (X.map Prod.fst).foldl extend (S.map Selection.expr) := by
  induction X generalizing S with
  | nil => rfl
  | cons x X ih => rw [List.foldl_cons, ih, map_expr_attach h, List.map_cons, List.foldl_cons]

/-- Fresh entries become selections, one after another. -/
lemma foldl_attach_fresh {which : Attachment} {star : Bool} (h : Fresh which star)
    (S : List Selection) (X : List (Expr × String)) :
    X.foldl (attach which star) S =
      S ++ X.map fun x => Selection.attach which x.2 (.ofExpr x.1) := by
  induction X generalizing S with
  | nil => simp
  | cons x X ih =>
    have heq : attach which star S x = S ++ [Selection.attach which x.2 (.ofExpr x.1)] := by
      rcases attach_cases which star S x with ⟨hnot, -⟩ | ⟨-, heq⟩
      · exact absurd h hnot
      · exact heq
    rw [List.foldl_cons, ih, heq, List.append_assoc, List.singleton_append, List.map_cons]

/-- What holds of the selections that are there, is kept by attaching a text, and holds of new
selections with a text, holds of all selections. -/
lemma forall_foldl_attach {which : Attachment} {star : Bool} {p : Selection → Prop}
    {S : List Selection} {X : List (Expr × String)} (hS : ∀ s ∈ S, p s)
    (hattach : ∀ x ∈ X, ∀ s, p s → s.expr = x.1 → p (Selection.attach which x.2 s))
    (hnew : ∀ x ∈ X, p (Selection.attach which x.2 (.ofExpr x.1))) :
    ∀ s ∈ X.foldl (attach which star) S, p s := by
  induction X generalizing S with
  | nil => exact hS
  | cons x X ih =>
    refine ih ?_ (fun y hy => hattach y (List.mem_cons_of_mem x hy))
      fun y hy => hnew y (List.mem_cons_of_mem x hy)
    intro s hs
    rcases attach_cases which star S x with ⟨-, P, t, T, rfl, ht, -, heq⟩ | ⟨-, heq⟩
    · rw [heq] at hs
      rcases List.mem_append.1 hs with hP | hT
      · exact hS s (List.mem_append_left _ hP)
      rcases List.mem_cons.1 hT with rfl | hT
      · exact hattach x List.mem_cons_self t (hS t (by simp)) ht
      · exact hS s (by simp [hT])
    · rw [heq] at hs
      rcases List.mem_append.1 hs with hs | hs
      · exact hS s hs
      · exact List.mem_singleton.1 hs ▸ hnew x List.mem_cons_self

/-! ## Texts at first selections only -/

/-- Texts of a sort are attached to the first selections of their expressions only. -/
def FirstOnly (which : Attachment) (S : List Selection) : Prop :=
  S.Pairwise fun s t => s.expr = t.expr → Selection.text? which t = none

/-- Selections without texts of a sort. -/
lemma attached_eq_nil_iff {which : Attachment} {S : List Selection} :
    attached which S = [] ↔ ∀ s ∈ S, Selection.text? which s = none := by
  simp [attached]

/-- Nothing is collected from a selection without a text. -/
lemma attached_cons_of_none {which : Attachment} {s : Selection} (S : List Selection)
    (h : Selection.text? which s = none) : attached which (s :: S) = attached which S := by
  simp [attached, h]

/-- A text is collected with the expression of its selection. -/
lemma attached_cons_of_some {which : Attachment} {s : Selection} {text : String}
    (S : List Selection) (h : Selection.text? which s = some text) :
    attached which (s :: S) = (s.expr, text) :: attached which S := by
  simp [attached, h]

/-- A text is collected if it is attached to a selection. -/
lemma mem_attached {which : Attachment} {S : List Selection} {x : Expr × String} :
    x ∈ attached which S ↔ ∃ s ∈ S, s.expr = x.1 ∧ Selection.text? which s = some x.2 := by
  simp only [attached, List.mem_filterMap, Option.map_eq_some_iff, Prod.ext_iff]
  constructor
  · rintro ⟨s, hs, text, htext, hexpr, rfl⟩
    exact ⟨s, hs, hexpr, htext⟩
  · rintro ⟨s, hs, hexpr, htext⟩
    exact ⟨s, hs, x.2, htext, hexpr, rfl⟩

/-- Without texts of a sort there are none at other places than the first. -/
lemma firstOnly_of_attached_eq_nil {which : Attachment} {S : List Selection}
    (h : attached which S = []) : FirstOnly which S :=
  List.pairwise_of_forall_mem_list fun _ _ t ht _ => attached_eq_nil_iff.1 h t ht

/-- No text is collected for the expression of an earlier selection. -/
lemma FirstOnly.not_mem_attached {which : Attachment} {s : Selection} {S : List Selection}
    (h : FirstOnly which (s :: S)) : s.expr ∉ (attached which S).map Prod.fst := by
  intro hmem
  obtain ⟨x, hx, hxs⟩ := List.mem_map.1 hmem
  obtain ⟨t, ht, hexpr, htext⟩ := mem_attached.1 hx
  have hnone := (List.pairwise_cons.1 h).1 t ht (hexpr.trans hxs).symm
  rw [hnone] at htext
  cases htext

/-- An entry is attached to a first selection. -/
lemma FirstOnly.attach {which : Attachment} {star : Bool} {S : List Selection}
    (hS : FirstOnly which S) (h : ¬ Fresh which star) (x : Expr × String) :
    FirstOnly which (attach which star S x) := by
  unfold FirstOnly at hS ⊢
  rcases attach_cases which star S x with
    ⟨-, P, s, T, rfl, hs, hP, heq⟩ | ⟨hfresh | hnone, heq⟩
  · rw [heq]
    simp only [List.pairwise_append, List.pairwise_cons, List.mem_cons, forall_eq_or_imp,
      attach_expr] at hS ⊢
    obtain ⟨hPP, ⟨hsT, hTT⟩, hPs⟩ := hS
    refine ⟨hPP, ⟨hsT, hTT⟩, fun p hp => ⟨fun hps => ?_, (hPs p hp).2⟩⟩
    exact absurd (List.mem_map.2 ⟨p, hp, hps.trans hs⟩) hP
  · exact absurd hfresh h
  · rw [heq, List.pairwise_append]
    refine ⟨hS, List.pairwise_singleton _ _, fun s hs t ht hst => ?_⟩
    obtain rfl := List.mem_singleton.1 ht
    exact absurd (List.mem_map.2 ⟨s, hs, by simpa using hst⟩) hnone

/-- The entries of a clause are attached to first selections. -/
lemma FirstOnly.foldl {which : Attachment} {star : Bool} {S : List Selection}
    (hS : FirstOnly which S) (h : ¬ Fresh which star) (X : List (Expr × String)) :
    FirstOnly which (X.foldl (Query.attach which star) S) := by
  induction X generalizing S with
  | nil => exact hS
  | cons x X ih => exact ih (hS.attach h x)

/-- An entry of one sort leaves the texts of the other as they are. -/
lemma attached_attach_of_ne {which other : Attachment} (hne : which ≠ other) {star : Bool}
    (S : List Selection) (x : Expr × String) :
    attached other (attach which star S x) = attached other S := by
  rcases attach_cases which star S x with ⟨-, P, s, T, rfl, -, -, heq⟩ | ⟨-, heq⟩
  · rw [heq]
    simp [attached, List.filterMap_cons, text?_attach_of_ne _ _ _ _ hne]
  · rw [heq]
    simp [attached, text?_attach_of_ne _ _ _ _ hne]

/-- The entries of one sort leave the texts of the other as they are. -/
lemma attached_foldl_of_ne {which other : Attachment} (hne : which ≠ other) {star : Bool}
    (S : List Selection) (X : List (Expr × String)) :
    attached other (X.foldl (attach which star) S) = attached other S := by
  induction X generalizing S with
  | nil => rfl
  | cons x X ih => rw [List.foldl_cons, ih, attached_attach_of_ne hne]

/-! ## The texts of a clause come back -/

/-- After an entry its text is attached, and the texts of other expressions are as before. -/
lemma mem_attached_attach {which : Attachment} {star : Bool} {S : List Selection}
    (hS : FirstOnly which S) (h : ¬ Fresh which star) (x y : Expr × String) :
    y ∈ attached which (attach which star S x) ↔
      y = x ∨ y ∈ attached which S ∧ y.1 ≠ x.1 := by
  have hfirst := hS.attach h x
  rcases attach_cases which star S x with
    ⟨-, P, s, T, rfl, hs, hP, heq⟩ | ⟨hfresh | hnone, heq⟩
  · rw [heq] at hfirst ⊢
    have hlater : ∀ t ∈ T, s.expr = t.expr → Selection.text? which t = none := by
      have hpair := (List.pairwise_cons.1 (List.pairwise_append.1 hfirst).2.1).1
      simpa using hpair
    simp only [mem_attached, List.mem_append, List.mem_cons]
    constructor
    · rintro ⟨t, hP' | rfl | hT, ht, htext⟩
      · refine .inr ⟨⟨t, .inl hP', ht, htext⟩, fun hyx => ?_⟩
        exact hP (List.mem_map.2 ⟨t, hP', ht.trans hyx⟩)
      · refine .inl (Prod.ext (ht.symm.trans (by simpa using hs)) ?_)
        simpa using htext.symm
      · refine .inr ⟨⟨t, .inr (.inr hT), ht, htext⟩, fun hyx => ?_⟩
        rw [hlater t hT (hs.trans (ht.trans hyx).symm)] at htext
        cases htext
    · rintro (rfl | ⟨⟨t, hP' | rfl | hT, ht, htext⟩, hne⟩)
      · exact ⟨_, .inr (.inl rfl), by simpa using hs, by simp⟩
      · exact ⟨t, .inl hP', ht, htext⟩
      · exact absurd (ht.symm.trans hs) hne
      · exact ⟨t, .inr (.inr hT), ht, htext⟩
  · exact absurd hfresh h
  · have hne : ∀ z ∈ attached which S, z.1 ≠ x.1 := by
      rintro z hz hzx
      obtain ⟨s, hs, hexpr, -⟩ := mem_attached.1 hz
      exact hnone (List.mem_map.2 ⟨s, hs, hexpr.trans hzx⟩)
    have hnew : attached which (S ++ [Selection.attach which x.2 (.ofExpr x.1)]) =
        attached which S ++ [x] := by simp [attached]
    rw [heq, hnew, List.mem_append, List.mem_singleton]
    exact ⟨fun h => h.symm.imp_right fun hy => ⟨hy, hne y hy⟩, fun h => h.symm.imp_left And.left⟩

/-- After entries of different expressions exactly their texts are attached, if none were. -/
lemma mem_attached_foldl {which : Attachment} {star : Bool} {S : List Selection}
    (hS : FirstOnly which S) (h : ¬ Fresh which star) {X : List (Expr × String)}
    (hX : (X.map Prod.fst).Nodup) (y : Expr × String) :
    y ∈ attached which (X.foldl (attach which star) S) ↔
      y ∈ X ∨ y ∈ attached which S ∧ y.1 ∉ X.map Prod.fst := by
  induction X generalizing S with
  | nil => simp
  | cons x X ih =>
    obtain ⟨hx, hnodup⟩ := List.nodup_cons.1 hX
    rw [List.foldl_cons, ih (hS.attach h x) hnodup, mem_attached_attach hS h]
    have hyx : y = x → y.1 ∉ X.map Prod.fst := fun heq => heq ▸ hx
    simp only [List.mem_cons, List.map_cons, not_or]
    tauto

/-- The entries are in order if the first places of their expressions among the given ones
increase. -/
def InOrder (es : List Expr) (X : List (Expr × String)) : Prop :=
  X.Pairwise fun x y => es.idxOf x.1 < es.idxOf y.1

instance (es : List Expr) (X : List (Expr × String)) : Decidable (InOrder es X) :=
  inferInstanceAs (Decidable (List.Pairwise _ X))

/-- Entries in order are of different expressions. -/
lemma InOrder.nodup {es : List Expr} {X : List (Expr × String)} (h : InOrder es X) :
    (X.map Prod.fst).Nodup := by
  rw [List.Nodup, List.pairwise_map]
  exact h.imp fun hlt heq => absurd (heq ▸ hlt) (Nat.lt_irrefl _)

/-- There is one order of entries only. -/
lemma InOrder.eq_of_mem_iff {es : List Expr} {X Y : List (Expr × String)} (hX : InOrder es X)
    (hY : InOrder es Y) (h : ∀ x, x ∈ X ↔ x ∈ Y) : X = Y := by
  have hirrefl : Std.Irrefl fun x y : Expr × String => es.idxOf x.1 < es.idxOf y.1 :=
    ⟨fun _ => Nat.lt_irrefl _⟩
  have hantisymm : Std.Antisymm fun x y : Expr × String => es.idxOf x.1 < es.idxOf y.1 :=
    ⟨fun _ _ hlt hgt => absurd (Nat.lt_trans hlt hgt) (Nat.lt_irrefl _)⟩
  exact List.Pairwise.eq_of_mem_iff hX hY h

/-- The texts of a sort that are at first selections only stand in the order of the first places of
their expressions. -/
theorem FirstOnly.inOrder {which : Attachment} {S : List Selection} (hS : FirstOnly which S) :
    InOrder (S.map Selection.expr) (attached which S) := by
  induction S with
  | nil => exact .nil
  | cons s S ih =>
    have hne : ∀ x ∈ attached which S, s.expr ≠ x.1 := fun x hx heq =>
      hS.not_mem_attached (List.mem_map.2 ⟨x, hx, heq.symm⟩)
    have htail : InOrder ((s :: S).map Selection.expr) (attached which S) := by
      refine (ih (List.pairwise_cons.1 hS).2).imp_of_mem fun {x y} hx hy hlt => ?_
      rw [List.map_cons, List.idxOf_cons_ne _ (hne x hx), List.idxOf_cons_ne _ (hne y hy)]
      exact Nat.succ_lt_succ hlt
    cases htext : Selection.text? which s with
    | none => rwa [attached_cons_of_none S htext]
    | some text =>
      rw [attached_cons_of_some S htext, InOrder, List.pairwise_cons]
      refine ⟨fun y hy => ?_, htail⟩
      rw [List.map_cons, List.idxOf_cons_self, List.idxOf_cons_ne _ (hne y hy)]
      exact Nat.succ_pos _

/-- **A clause comes back exactly if it was in order.**  After the entries of a clause were attached
to selections without such texts, the texts that are collected again are the entries if and only if
these were in the order of the first places of their expressions. -/
theorem attached_foldl_eq_iff {which : Attachment} {star : Bool} {S : List Selection}
    (hS : attached which S = []) (h : ¬ Fresh which star) (X : List (Expr × String)) :
    attached which (X.foldl (attach which star) S) = X ↔
      InOrder ((X.foldl (attach which star) S).map Selection.expr) X := by
  have hfirst := firstOnly_of_attached_eq_nil hS
  have horder := (hfirst.foldl h X).inOrder
  constructor
  · intro heq
    rwa [heq] at horder
  · intro hX
    refine horder.eq_of_mem_iff hX fun y => ?_
    rw [mem_attached_foldl hfirst h hX.nodup, hS]
    simp

/-! ## First places -/

/-- An element that is there already does not change which of two has the earlier first place. -/
lemma idxOf_lt_idxOf_insert {es fs : List Expr} {b : Expr} (hb : b ∈ es) (x y : Expr) :
    (es ++ b :: fs).idxOf x < (es ++ b :: fs).idxOf y ↔
      (es ++ fs).idxOf x < (es ++ fs).idxOf y := by
  have hplace : ∀ z, z ∉ es → (b :: fs).idxOf z = fs.idxOf z + 1 := by
    intro z hz
    exact List.idxOf_cons_ne _ fun heq => hz (heq ▸ hb)
  have hlt : ∀ z ∈ es, es.idxOf z < es.length := fun z hz => List.idxOf_lt_length_of_mem hz
  simp only [List.idxOf_append]
  by_cases hx : x ∈ es <;> by_cases hy : y ∈ es
  · simp [hx, hy]
  · have := hlt x hx
    simp only [hx, hy, if_true, if_false, hplace y hy]
    omega
  · have := hlt y hy
    simp only [hx, hy, if_true, if_false, hplace x hx]
    omega
  · simp only [hx, hy, if_false, hplace x hx, hplace y hy]
    omega

/-- Which of two elements has the earlier first place is the same in a list that was extended and
in one that was appended to. -/
lemma idxOf_lt_idxOf_extend {es fs : List Expr} (x y : Expr) :
    (fs.foldl extend es).idxOf x < (fs.foldl extend es).idxOf y ↔
      (es ++ fs).idxOf x < (es ++ fs).idxOf y := by
  induction fs generalizing es with
  | nil => simp
  | cons f fs ih =>
    rw [List.foldl_cons, ih, extend]
    split
    · next hf => exact (idxOf_lt_idxOf_insert hf x y).symm
    · rw [List.append_assoc, List.singleton_append]

end ChartQuery.Query
