import ChartQuery.Proofs.Cellwise
import ChartQuery.Proofs.CrossTable
import ChartQuery.Session
import Mathlib.Algebra.GroupWithZero.Nat
import Mathlib.Data.List.Pairwise

/-!
# What a pivot keeps of an answer

The statement for a query with a pivot groups by the columns of the pivot and of the groups, so the
rows of the answer differ in the cells there.  The pivoted table is not built from these cells, but
from the texts that they are shown as, with commas or tabs between them.  Different cells may have
the same text: then they share a row or a column, and of the cells that meet there the last one is
kept.

If texts tell apart what cells tell apart, every row of the answer has places of its own and nothing
is lost.  How many rows and columns there are says whether that is so.
-/

namespace ChartQuery

/-! ## Positions -/

namespace Table

section Positions

variable {α β : Type}

/-- A row made of blocks has the cells of a block behind the widths of the blocks before it. -/
lemma getElem?_flatMap {f : α → List β} {width : α → Nat} {l : List α}
    (hwidth : ∀ a ∈ l, (f a).length = width a) {i : Nat} {a : α} (ha : l[i]? = some a) {k : Nat}
    (hk : k < width a) : (l.flatMap f)[((l.map width).take i).sum + k]? = (f a)[k]? := by
  induction l generalizing i with
  | nil => cases ha
  | cons b l ih =>
    have hb : (f b).length = width b := hwidth b List.mem_cons_self
    rw [List.flatMap_cons, List.map_cons]
    cases i with
    | zero =>
      cases ha
      rw [List.take_zero, List.sum_nil, Nat.zero_add, List.getElem?_append_left (by omega)]
    | succ i =>
      have hrest := ih (fun a h => hwidth a (List.mem_cons_of_mem b h)) ha
      rw [List.take_succ_cons, List.sum_cons, List.getElem?_append_right (by omega), ← hrest]
      congr 1
      omega

/-- A block ends before the next one begins. -/
lemma sum_take_add_le {widths : List Nat} {i i' w : Nat} (hw : widths[i]? = some w) (h : i < i') :
    (widths.take i).sum + w ≤ (widths.take i').sum := by
  induction widths generalizing i i' with
  | nil => cases hw
  | cons v widths ih =>
    obtain ⟨i', rfl⟩ : ∃ k, i' = k + 1 := ⟨i' - 1, by omega⟩
    rw [List.take_succ_cons, List.sum_cons]
    cases i with
    | zero =>
      cases hw
      rw [List.take_zero, List.sum_nil]
      omega
    | succ i =>
      have hrest : (widths.take i).sum + w ≤ (widths.take i').sum := ih hw (by omega)
      rw [List.take_succ_cons, List.sum_cons]
      omega

end Positions

/-! ## Places in a cross table -/

section Places

variable {q : Query} {t p : Table} {keys groups : List String} {j j' : Nat} {c c' : Column}

/-- `IsValue q t j c`: the column at a place of a table to be pivoted has values, that is, it is
neither one of the leading columns nor one of the groups. -/
structure IsValue (q : Query) (t : Table) (j : Nat) (c : Column) : Prop where
  leading_le : q.leading ≤ j
  getElem?_eq : t.columns[j]? = some c
  notMem_groupBy : c.id ∉ q.groupBy

/-- The number of columns that a column becomes in the pivoted table. -/
def columnWidth (q : Query) (width : Nat) (c : Column) : Nat :=
  if c.id ∈ q.groupBy then 1 else width

/-- The place in the pivoted table at which the column from some place begins. -/
def blockStart (q : Query) (width : Nat) (t : Table) (j : Nat) : Nat :=
  (((t.columns.drop q.leading).map (columnWidth q width)).take (j - q.leading)).sum

/-- The column at a place, counted from the end of the leading columns. -/
lemma IsValue.getElem?_drop (h : IsValue q t j c) :
    (t.columns.drop q.leading)[j - q.leading]? = some c := by
  have hle := h.leading_le
  rw [List.getElem?_drop, Nat.add_sub_cancel' hle, h.getElem?_eq]

/-- **Blocks of columns do not overlap.** -/
lemma IsValue.blockStart_add_le (h : IsValue q t j c) {width : Nat} (hj : j < j') :
    blockStart q width t j + width ≤ blockStart q width t j' := by
  have hle := h.leading_le
  have hwidth : ((t.columns.drop q.leading).map (columnWidth q width))[j - q.leading]? =
      some width := by
    rw [List.getElem?_map, h.getElem?_drop, Option.map_some, columnWidth, if_neg h.notMem_groupBy]
  exact sum_take_add_le hwidth (by omega)

/-- The copy of a column for a key stands in the block of the column, at the place of the key. -/
lemma IsCrossTable.getElem?_columns (hp : IsCrossTable q t keys groups p) (hc : IsValue q t j c)
    {k : String} (hk : k ∈ keys) :
    p.columns[blockStart q keys.length t j + keys.idxOf k]? = some (pivotColumn c k) := by
  have hlt : keys.idxOf k < columnWidth q keys.length c := by
    rw [columnWidth, if_neg hc.notMem_groupBy]
    exact List.idxOf_lt_length_iff.2 hk
  rw [hp.columns, blockStart, getElem?_flatMap (fun d _ => ?_) hc.getElem?_drop hlt,
    if_neg hc.notMem_groupBy, List.getElem?_map, List.getElem?_idxOf hk]
  · rfl
  · by_cases hd : d.id ∈ q.groupBy <;> simp [columnWidth, hd]

/-- The cell for a group and a key stands in the row of the group, in the block of the column and at
the place of the key. -/
lemma IsCrossTable.getElem?_rows (hp : IsCrossTable q t keys groups p) (hc : IsValue q t j c)
    {g k : String} (hg : g ∈ groups) (hk : k ∈ keys) :
    ∃ row, p.rows[groups.idxOf g]? = some row ∧
      row[blockStart q keys.length t j + keys.idxOf k]? =
        some (crossCell q.groupOf q.keyOf t.rows g k j) := by
  have hlt : keys.idxOf k < columnWidth q keys.length c := by
    rw [columnWidth, if_neg hc.notMem_groupBy]
    exact List.idxOf_lt_length_iff.2 hk
  have hplace : ((t.columns.drop q.leading).zipIdx q.leading)[j - q.leading]? = some (c, j) := by
    have hle := hc.leading_le
    rw [List.getElem?_zipIdx, hc.getElem?_drop, Option.map_some, Nat.add_sub_cancel' hle]
  have hstart : blockStart q keys.length t j =
      ((((t.columns.drop q.leading).zipIdx q.leading).map
        (fun d => columnWidth q keys.length d.1)).take (j - q.leading)).sum := by
    have hcolumns := List.zipIdx_map_fst q.leading (t.columns.drop q.leading)
    rw [blockStart, ← hcolumns, List.map_map, hcolumns]
    rfl
  rw [hp.rows, List.getElem?_map, List.getElem?_idxOf hg, Option.map_some]
  refine ⟨_, rfl, ?_⟩
  rw [hstart, getElem?_flatMap (fun d _ => ?_) hplace hlt]
  · dsimp only
    rw [if_neg hc.notMem_groupBy, List.getElem?_map, List.getElem?_idxOf hk]
    rfl
  · by_cases hd : d.1.id ∈ q.groupBy <;> simp [columnWidth, hd]

/-- A row that is alone with its group and key gives its cell to them. -/
lemma crossCell_of_alone {group key : Row → String} {rows : List Row}
    (hrows : rows.Pairwise fun r s => ¬ (group r = group s ∧ key r = key s)) {r : Row}
    (hr : r ∈ rows) : crossCell group key rows (group r) (key r) j = cellAt r j := by
  have hmem : r ∈ rows.filter fun s => group s = group r ∧ key s = key r :=
    List.mem_filter.2 ⟨hr, by simp⟩
  have hall : ∀ s ∈ rows.filter fun s => group s = group r ∧ key s = key r, s = r := by
    intro s hs
    obtain ⟨hs, hboth⟩ := List.mem_filter.1 hs
    have hboth : group s = group r ∧ key s = key r := of_decide_eq_true hboth
    have hsymm : Std.Symm fun r s => ¬ (group r = group s ∧ key r = key s) :=
      ⟨fun _ _ h hback => h ⟨hback.1.symm, hback.2.symm⟩⟩
    by_contra hne
    exact hrows.forall hs hr hne hboth
  unfold crossCell
  cases hlast : (rows.filter fun s => group s = group r ∧ key s = key r).getLast? with
  | none =>
    rw [List.getLast?_eq_none_iff] at hlast
    rw [hlast] at hmem
    cases hmem
  | some s => rw [hall s (List.mem_of_getLast? hlast), Option.elim_some]

end Places

end Table

/-! ## Cells and their texts -/

namespace Query

/-- The cells of a row in the columns of the pivot. -/
def pivotCells (q : Query) (r : Row) : List Cell := r.take q.pivot.length

/-- The cells of a row in the columns of the groups. -/
def groupCells (q : Query) (r : Row) : List Cell :=
  (r.drop q.pivot.length).take q.groupBy.length

/-- The leading cells of a row are those of the pivot and those of the groups. -/
lemma take_leading (q : Query) (r : Row) :
    r.take q.leading = q.pivotCells r ++ q.groupCells r := by
  rw [leading, List.take_add, pivotCells, groupCells]

end Query

namespace Table

variable {q : Query} {raw shown p : Table} {keys groups : List String}

/-- `TellsApart cells text raw shown`: rows of an answer whose cells differ are shown with different
texts. -/
def TellsApart (cells : Row → List Cell) (text : Row → String) (raw shown : Table) : Prop :=
  ∀ x ∈ raw.rows.zip shown.rows, ∀ y ∈ raw.rows.zip shown.rows,
    text x.2 = text y.2 → cells x.1 = cells y.1

/-- If the cells of a row determine its text, the texts are a function of the cells. -/
lemma exists_text (cells : Row → List Cell) (text : Row → String)
    (hlength : raw.rows.length = shown.rows.length)
    (hcells : ∀ x ∈ raw.rows.zip shown.rows, ∀ y ∈ raw.rows.zip shown.rows,
      cells x.1 = cells y.1 → text x.2 = text y.2) :
    ∃ f : List Cell → String, (∀ x ∈ raw.rows.zip shown.rows, f (cells x.1) = text x.2) ∧
      shown.rows.map text = (raw.rows.map cells).map f ∧
      (TellsApart cells text raw shown ↔ Set.InjOn f {k | k ∈ raw.rows.map cells}) := by
  have hfst : (raw.rows.zip shown.rows).map Prod.fst = raw.rows := List.map_fst_zip hlength.le
  have hsnd : (raw.rows.zip shown.rows).map Prod.snd = shown.rows := List.map_snd_zip hlength.ge
  set rows := raw.rows.zip shown.rows with hrows
  let f (k : List Cell) : String := (rows.find? fun x => cells x.1 = k).elim "" fun x => text x.2
  have hf : ∀ x ∈ rows, f (cells x.1) = text x.2 := by
    intro x hx
    cases hfind : rows.find? fun y => cells y.1 = cells x.1 with
    | none =>
      have hno := List.find?_eq_none.1 hfind x hx
      simp at hno
    | some y =>
      have hy : y ∈ rows := List.mem_of_find?_eq_some hfind
      have hsame : cells y.1 = cells x.1 := by simpa using List.find?_some hfind
      change (rows.find? fun y => cells y.1 = cells x.1).elim "" _ = _
      rw [hfind, Option.elim_some, hcells y hy x hx hsame]
  have hmem (k : List Cell) : k ∈ raw.rows.map cells ↔ ∃ x ∈ rows, cells x.1 = k := by
    rw [← hfst, List.map_map, List.mem_map]
    rfl
  refine ⟨f, hf, ?_, ?_⟩
  · rw [← hsnd, ← hfst, List.map_map, List.map_map, List.map_map]
    exact List.map_congr_left fun x hx => (hf x hx).symm
  · unfold TellsApart
    rw [← hrows]
    constructor
    · intro htells k hk l hl hkl
      obtain ⟨x, hx, rfl⟩ := (hmem k).1 hk
      obtain ⟨y, hy, rfl⟩ := (hmem l).1 hl
      rw [hf x hx, hf y hy] at hkl
      exact htells x hx y hy hkl
    · intro hinj x hx y hy hxy
      rw [← hf x hx, ← hf y hy] at hxy
      exact hinj ((hmem _).2 ⟨x, hx, rfl⟩) ((hmem _).2 ⟨y, hy, rfl⟩) hxy

namespace IsConverted

/-- Rows of an answer and what is shown of them. -/
lemma shownFrom (h : IsConverted q raw shown) {x : Row × Row}
    (hx : x ∈ raw.rows.zip shown.rows) : ShownFrom ⟨false, false⟩ 0 shown.columns x.1 x.2 :=
  List.forall₂_zip h.rows hx

/-- The cells in the columns of the pivot determine the key. -/
lemma keyOf_congr (h : IsConverted q raw shown) {x y : Row × Row}
    (hx : x ∈ raw.rows.zip shown.rows) (hy : y ∈ raw.rows.zip shown.rows)
    (hxy : q.pivotCells x.1 = q.pivotCells y.1) : q.keyOf x.2 = q.keyOf y.2 := by
  have hrun := (h.shownFrom hx).run_congr (h.shownFrom hy) (n := 0) (m := q.pivot.length) hxy
  exact congrArg (fun cells => ",".intercalate (cells.map Cell.text)) hrun

/-- The cells in the columns of the groups determine the group. -/
lemma groupOf_congr (h : IsConverted q raw shown) {x y : Row × Row}
    (hx : x ∈ raw.rows.zip shown.rows) (hy : y ∈ raw.rows.zip shown.rows)
    (hxy : q.groupCells x.1 = q.groupCells y.1) : q.groupOf x.2 = q.groupOf y.2 := by
  have hrun := (h.shownFrom hx).run_congr (h.shownFrom hy) hxy
  rw [Query.groupOf, Query.groupOf, hrun]

/-- What is shown in a column of values. -/
lemma shown_cellAt (h : IsConverted q raw shown) {x : Row × Row}
    (hx : x ∈ raw.rows.zip shown.rows) {j : Nat} {c : Column} (hc : IsValue q shown j c) :
    ∃ a, x.1[j]? = some a ∧ Shown ⟨false, false⟩ c a (cellAt x.2 j) := by
  have hj : j < shown.columns.length := (List.getElem?_eq_some_iff.1 hc.getElem?_eq).1
  have hlength : x.1.length = shown.columns.length :=
    h.rectangular x.1 (List.of_mem_zip hx).1
  obtain ⟨a, ha⟩ : ∃ a, x.1[j]? = some a := ⟨_, List.getElem?_eq_getElem (by omega)⟩
  have hzero : 0 + j = j := Nat.zero_add j
  obtain ⟨b, hb, hshown⟩ :=
    (h.shownFrom hx).within j c a hc.getElem?_eq (by rw [hzero]; exact ha)
  rw [hzero] at hb
  refine ⟨a, ha, ?_⟩
  have hat : cellAt x.2 j = b := by rw [cellAt, List.getD_eq_getElem?_getD, hb, Option.getD_some]
  rw [hat]
  exact hshown

end IsConverted

/-! ## What is kept -/

/-- `Keeps q raw shown p width rowOf placeOf`: the table `p` holds all of the answer `raw`.  There is
one row for each tuple of cells in the columns of the groups.  Each column of values is a block that
has one place for each tuple of cells in the columns of the pivot.  What is shown of a row stands in
its row and at its place, and no other row has the same. -/
structure Keeps (q : Query) (raw shown p : Table) (width : Nat) (rowOf placeOf : List Cell → Nat) :
    Prop where
  rows : Set.BijOn rowOf {k | k ∈ raw.rows.map q.groupCells} {i | i < p.rows.length}
  places : Set.BijOn placeOf {k | k ∈ raw.rows.map q.pivotCells} {i | i < width}
  blocks : ∀ j c j', IsValue q shown j c → j < j' →
    blockStart q width shown j + width ≤ blockStart q width shown j'
  columns : ∀ x ∈ raw.rows.zip shown.rows, ∀ j c, IsValue q shown j c →
    p.columns[blockStart q width shown j + placeOf (q.pivotCells x.1)]? =
      some (pivotColumn c (q.keyOf x.2))
  cells : ∀ r ∈ raw.rows, ∀ j c, IsValue q shown j c → ∃ row a b,
    p.rows[rowOf (q.groupCells r)]? = some row ∧ r[j]? = some a ∧
      Shown ⟨false, false⟩ c a b ∧
      row[blockStart q width shown j + placeOf (q.pivotCells r)]? = some b
  apart : raw.rows.Pairwise fun r s =>
    (rowOf (q.groupCells r), placeOf (q.pivotCells r)) ≠
      (rowOf (q.groupCells s), placeOf (q.pivotCells s))

/-- If texts tell apart what differs in the answer, no two rows meet at one place. -/
lemma pairwise_alone (hlength : raw.rows.length = shown.rows.length)
    (hdistinct : raw.rows.Pairwise fun r s => r.take q.leading ≠ s.take q.leading)
    (hkeys : TellsApart q.pivotCells q.keyOf raw shown)
    (hgroups : TellsApart q.groupCells q.groupOf raw shown) :
    shown.rows.Pairwise fun r s => ¬ (q.groupOf r = q.groupOf s ∧ q.keyOf r = q.keyOf s) := by
  have hfst : (raw.rows.zip shown.rows).map Prod.fst = raw.rows := List.map_fst_zip hlength.le
  have hsnd : (raw.rows.zip shown.rows).map Prod.snd = shown.rows := List.map_snd_zip hlength.ge
  rw [← hfst, List.pairwise_map] at hdistinct
  rw [← hsnd, List.pairwise_map]
  refine hdistinct.imp_of_mem fun {x y} hx hy hne hboth => hne ?_
  have hpivot : q.pivotCells x.1 = q.pivotCells y.1 := hkeys x hx y hy hboth.2
  have hgroup : q.groupCells x.1 = q.groupCells y.1 := hgroups x hx y hy hboth.1
  rw [q.take_leading, q.take_leading, hpivot, hgroup]

/-- **What a cross table keeps.**  There are as many keys as tuples of cells in the columns of the
pivot exactly if the keys tell them apart, and the same holds for the groups.  If both do, the cross
table holds all of the answer. -/
theorem IsCrossTable.keeps (hp : IsCrossTable q shown keys groups p)
    (hconverted : IsConverted q raw shown)
    (hdistinct : raw.rows.Pairwise fun r s => r.take q.leading ≠ s.take q.leading) :
    (keys.length = (raw.rows.map q.pivotCells).toFinset.card ↔
      TellsApart q.pivotCells q.keyOf raw shown) ∧
    (groups.length = (raw.rows.map q.groupCells).toFinset.card ↔
      TellsApart q.groupCells q.groupOf raw shown) ∧
    (TellsApart q.pivotCells q.keyOf raw shown → TellsApart q.groupCells q.groupOf raw shown →
      ∃ rowOf placeOf, Keeps q raw shown p keys.length rowOf placeOf) := by
  have hlength := hconverted.rows.length_eq
  obtain ⟨key, hkey, hkeys, hkeyTells⟩ :=
    exists_text q.pivotCells q.keyOf hlength fun x hx y hy => hconverted.keyOf_congr hx hy
  obtain ⟨group, hgroup, hgroups, hgroupTells⟩ :=
    exists_text q.groupCells q.groupOf hlength fun x hx y hy => hconverted.groupOf_congr hx hy
  have hfirstKeys : FirstAppearances keys ((raw.rows.map q.pivotCells).map key) :=
    hkeys ▸ hp.firstKeys
  have hfirstGroups : FirstAppearances groups ((raw.rows.map q.groupCells).map group) :=
    hgroups ▸ hp.firstGroups
  refine ⟨hfirstKeys.length_eq_card_iff.trans hkeyTells.symm,
    hfirstGroups.length_eq_card_iff.trans hgroupTells.symm, fun hkeyApart hgroupApart => ?_⟩
  have hplaces := hfirstKeys.bijOn_idxOf (hkeyTells.1 hkeyApart)
  have hrowPlaces := hfirstGroups.bijOn_idxOf (hgroupTells.1 hgroupApart)
  have hrowsLength : groups.length = p.rows.length := by rw [hp.rows, List.length_map]
  have hmemKeys : ∀ x ∈ raw.rows.zip shown.rows, q.keyOf x.2 ∈ keys := fun x hx =>
    (hp.firstKeys.mem_iff _).2 (List.mem_map_of_mem (List.of_mem_zip hx).2)
  have hmemGroups : ∀ x ∈ raw.rows.zip shown.rows, q.groupOf x.2 ∈ groups := fun x hx =>
    (hp.firstGroups.mem_iff _).2 (List.mem_map_of_mem (List.of_mem_zip hx).2)
  have hfst : (raw.rows.zip shown.rows).map Prod.fst = raw.rows := List.map_fst_zip hlength.le
  have halone := pairwise_alone hlength hdistinct hkeyApart hgroupApart
  refine ⟨fun k => groups.idxOf (group k), fun k => keys.idxOf (key k), ?_⟩
  refine
    { rows := hrowsLength ▸ hrowPlaces
      places := hplaces
      blocks := fun j c j' hc hj => hc.blockStart_add_le hj
      columns := ?_
      cells := ?_
      apart := ?_ }
  · intro x hx j c hc
    rw [hkey x hx]
    exact hp.getElem?_columns hc (hmemKeys x hx)
  · intro r hr j c hc
    obtain ⟨x, hx, rfl⟩ := List.mem_map.1 (hfst.symm ▸ hr)
    obtain ⟨a, ha, hshown⟩ := hconverted.shown_cellAt hx hc
    obtain ⟨row, hrow, hcell⟩ := hp.getElem?_rows hc (hmemGroups x hx) (hmemKeys x hx)
    rw [crossCell_of_alone halone (List.of_mem_zip hx).2] at hcell
    rw [hkey x hx, hgroup x hx]
    exact ⟨row, a, _, hrow, ha, hshown, hcell⟩
  · refine hdistinct.imp_of_mem fun {r s} hr hs hne hsame => hne ?_
    obtain ⟨hrow, hplace⟩ := Prod.mk.inj hsame
    have hpivot : q.pivotCells r = q.pivotCells s :=
      hplaces.injOn (List.mem_map_of_mem hr) (List.mem_map_of_mem hs) hplace
    have hgroup : q.groupCells r = q.groupCells s :=
      hrowPlaces.injOn (List.mem_map_of_mem hr) (List.mem_map_of_mem hs) hrow
    rw [q.take_leading, q.take_leading, hpivot, hgroup]

end Table

/-! ## Sessions -/

namespace Session

open Table

variable {s : Session} {text statement : String} {q : Query} {raw result : Table}

/-- The table of a query with a pivot is what is shown of the answer, pivoted. -/
lemma run_pivoted (hprepare : s.prepare text = .ok (q, statement))
    (hfetch : s.source.fetch statement = .ok raw) (hpivot : q.hasPivot = true)
    (hvalues : q.noValues = false) (hformat : q.noFormat = false)
    (hrun : s.run text = .ok result) :
    ∃ shown, IsConverted q raw shown ∧ (pivot q shown).toExcept = .ok result := by
  unfold run at hrun
  rw [hprepare, ok_bind] at hrun
  dsimp only at hrun
  rw [hfetch] at hrun
  change finish q raw = .ok result at hrun
  obtain ⟨labelled, hlabelled, hrun⟩ := bind_eq_ok.1 hrun
  rw [if_pos hpivot, hvalues] at hrun
  obtain ⟨shown, hshown, hrun⟩ := bind_eq_ok.1 hrun
  obtain ⟨pivoted, hpivoted, hrun⟩ := bind_eq_ok.1 hrun
  rw [hformat] at hrun
  cases hrun
  exact ⟨shown, isConverted_of_applyFormats hlabelled hshown, hpivoted⟩

/-- **What a pivot keeps.**  Let the rows of the answer differ in the columns of the pivot and of the
groups.  The pivoted table is a cross table of what is shown of the answer.  It has as many keys as
there are tuples of cells in the columns of the pivot, and as many rows as there are tuples of cells
in the columns of the groups, exactly if the texts of the keys and of the groups tell these tuples
apart.  Then nothing is lost: each row of the answer is shown in the row of its group and at the
place of its key in each block of values, and no two of them share a position. -/
theorem run_keeps (hprepare : s.prepare text = .ok (q, statement))
    (hfetch : s.source.fetch statement = .ok raw) (hpivot : q.hasPivot = true)
    (hvalues : q.noValues = false) (hformat : q.noFormat = false)
    (hrun : s.run text = .ok result)
    (hdistinct : raw.rows.Pairwise fun r r' => r.take q.leading ≠ r'.take q.leading) :
    ∃ shown keys groups, IsConverted q raw shown ∧ IsCrossTable q shown keys groups result ∧
      (keys.length = (raw.rows.map q.pivotCells).toFinset.card ↔
        TellsApart q.pivotCells q.keyOf raw shown) ∧
      (groups.length = (raw.rows.map q.groupCells).toFinset.card ↔
        TellsApart q.groupCells q.groupOf raw shown) ∧
      (TellsApart q.pivotCells q.keyOf raw shown → TellsApart q.groupCells q.groupOf raw shown →
        ∃ rowOf placeOf, Keeps q raw shown result keys.length rowOf placeOf) := by
  obtain ⟨shown, hconverted, hpivoted⟩ := run_pivoted hprepare hfetch hpivot hvalues hformat hrun
  have hcross := isCrossTable_of_pivot hpivoted
  exact ⟨shown, _, _, hconverted, hcross, hcross.keeps hconverted hdistinct⟩

/-- A session with a source that answers all statements with one table. -/
def serving (t : Table) : Session := ⟨⟨.mySql, "emp", [], false⟩, ⟨true, fun _ => .ok t⟩⟩

/-- An answer to a query for the greatest strings `a` for each string `b`. -/
def greatest (rows : List (Value × Value)) : Table where
  columns := [⟨"b", "", .string, "", none⟩, ⟨"max(a)", "", .string, "", none⟩]
  rows := rows.map fun (b, a) => [⟨some b, none⟩, ⟨some a, none⟩]

/-- The query for the greatest strings. -/
lemma prepare_greatest (t : Table) :
    ∃ q statement, (serving t).prepare "select max(a) pivot b" = .ok (q, statement) ∧
      q.star = false ∧ q.hasPivot = true ∧ q.noValues = false ∧ q.noFormat = false ∧
      q.leading = 1 ∧ q.groupBy = [] ∧ q.pivotCells = (·.take 1) ∧ q.groupCells = fun _ => [] := by
  obtain ⟨⟨q, statement⟩, hprepare, htest⟩ := exists_eq_ok
    ((serving default).prepare "select max(a) pivot b")
    (fun p => decide (p.1.star = false ∧ p.1.noValues = false ∧ p.1.noFormat = false ∧
      p.1.pivot = ["b"] ∧ p.1.groupBy = []))
    (by decide +kernel)
  obtain ⟨hstar, hvalues, hformat, hpivot, hgroupBy⟩ := of_decide_eq_true htest
  refine ⟨q, statement, hprepare, hstar, ?_, hvalues, hformat, ?_, hgroupBy, ?_, ?_⟩
  · rw [Query.hasPivot, hpivot]
    rfl
  · rw [Query.leading, hpivot, hgroupBy]
    rfl
  · funext r
    rw [Query.pivotCells, hpivot]
    rfl
  · funext r
    rw [Query.groupCells, hgroupBy]
    rfl

/-- Two strings that differ tell two rows apart. -/
theorem run_keeps_strings :
    let raw := greatest [(.string "p", .string "x"), (.string "q", .string "y")]
    ∃ q statement result shown width rowOf placeOf,
      (serving raw).prepare "select max(a) pivot b" = .ok (q, statement) ∧
      (serving raw).run "select max(a) pivot b" = .ok result ∧
      IsConverted q raw shown ∧ Keeps q raw shown result width rowOf placeOf := by
  intro raw
  obtain ⟨q, statement, hprepare, -, hpivot, hvalues, hformat, hleading, hgroupBy, hpivotCells,
    hgroupCells⟩ := prepare_greatest raw
  obtain ⟨result, hrun, hsize⟩ := exists_eq_ok ((serving raw).run "select max(a) pivot b")
    (fun t => decide (t.columns.length = 2 ∧ t.rows.length = 1)) (by decide +kernel)
  obtain ⟨hwidth, hheight⟩ := of_decide_eq_true hsize
  have hdistinct : raw.rows.Pairwise fun r r' => r.take q.leading ≠ r'.take q.leading := by
    rw [hleading]
    decide +kernel
  have hfetch : (serving raw).source.fetch statement = .ok raw := rfl
  obtain ⟨shown, keys, groups, hconverted, hcross, hkeys, hgroups, hkeeps⟩ :=
    run_keeps hprepare hfetch hpivot hvalues hformat hrun hdistinct
  have hkeysLength : keys.length = 2 := by
    obtain ⟨c, d, hcd⟩ := List.length_eq_two.1 hconverted.length_columns
    have hshown := hcross.columns
    rw [hleading, hgroupBy, hcd] at hshown
    rw [← hwidth, hshown]
    simp
  have hgroupsLength : groups.length = 1 := by
    rw [← hheight, hcross.rows, List.length_map]
  obtain ⟨rowOf, placeOf, hkept⟩ := hkeeps
    (hkeys.1 (by rw [hkeysLength, hpivotCells]; decide +kernel))
    (hgroups.1 (by rw [hgroupsLength, hgroupCells]; decide +kernel))
  exact ⟨q, statement, result, shown, _, rowOf, placeOf, hprepare, hrun, hconverted, hkept⟩

/-- **Texts may hide a difference.**  Null and the empty string are both shown as nothing, so the
rows for them share a place, and the cell of the first one is lost. -/
theorem run_loses_null :
    let raw := greatest [(.null, .string "x"), (.string "", .string "y")]
    ∃ q statement result,
      (serving raw).prepare "select max(a) pivot b" = .ok (q, statement) ∧
      q.star = false ∧ q.hasPivot = true ∧ q.noValues = false ∧ q.noFormat = false ∧
      (raw.rows.map fun r => (r.take q.leading).map Cell.value?).Nodup ∧
      (serving raw).run "select max(a) pivot b" = .ok result ∧
      result.rows = [[⟨some (.string "y"), none⟩]] ∧
      ¬ ∃ shown width rowOf placeOf,
        IsConverted q raw shown ∧ Keeps q raw shown result width rowOf placeOf := by
  intro raw
  obtain ⟨q, statement, hprepare, hstar, hpivot, hvalues, hformat, hleading, hgroupBy, hpivotCells,
    -⟩ := prepare_greatest raw
  obtain ⟨result, hrun, hcells⟩ := exists_eq_ok ((serving raw).run "select max(a) pivot b")
    (fun t => decide (t.rows = [[⟨some (.string "y"), none⟩]])) (by decide +kernel)
  have hrows := of_decide_eq_true hcells
  have hdistinct : (raw.rows.map fun r => (r.take q.leading).map Cell.value?).Nodup := by
    rw [hleading]
    decide +kernel
  refine ⟨q, statement, result, hprepare, hstar, hpivot, hvalues, hformat, hdistinct, hrun, hrows,
    ?_⟩
  rintro ⟨shown, width, rowOf, placeOf, hconverted, hkeeps⟩
  obtain ⟨c, d, hcd⟩ := List.length_eq_two.1 hconverted.length_columns
  have hvalue : IsValue q shown 1 d := ⟨hleading.le, by rw [hcd]; rfl, by rw [hgroupBy]; simp⟩
  -- the table has no room but at the first place
  have hzero : ∀ r ∈ raw.rows, placeOf (q.pivotCells r) = 0 := by
    intro r hr
    obtain ⟨row, a, b, hrow, -, -, hb⟩ := hkeeps.cells r hr 1 d hvalue
    have hmem : row ∈ result.rows := List.mem_of_getElem? hrow
    rw [hrows, List.mem_singleton] at hmem
    subst hmem
    have hlt := (List.getElem?_eq_some_iff.1 hb).1
    rw [List.length_singleton] at hlt
    omega
  have hfirst : [⟨some .null, none⟩, ⟨some (.string "x"), none⟩] ∈ raw.rows := List.mem_cons_self
  have hsecond : [⟨some (.string ""), none⟩, ⟨some (.string "y"), none⟩] ∈ raw.rows :=
    List.mem_cons_of_mem _ List.mem_cons_self
  have hsame := hkeeps.places.injOn (List.mem_map_of_mem hfirst) (List.mem_map_of_mem hsecond)
    ((hzero _ hfirst).trans (hzero _ hsecond).symm)
  rw [hpivotCells] at hsame
  cases hsame

end Session

end ChartQuery
