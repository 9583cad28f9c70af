import ChartQuery.Proofs.Typing

/-!
# What is left of values that are left out

A query may ask for all values to be left out.  This is done when the cells are converted, and a
pivot comes after that.  A pivot moves cells whose values are gone, but where no row has a group and
a key it puts a cell of its own, which holds null.  So values are gone from a pivoted table exactly
if no such place is left open: each group that occurs has to occur with each key, or there is
nothing but the columns of the groups.
-/

namespace ChartQuery

namespace Table

variable {q : Query} {t p : Table} {keys groups : List String}

/-! ## Places without a row -/

/-- Whether no cell of a table has a value, not even null. -/
def Valueless (t : Table) : Prop := ∀ r ∈ t.rows, ∀ a ∈ r, a.value? = none

/-- Whether each group that occurs in a table to be pivoted occurs with each of the keys. -/
def Complete (q : Query) (t : Table) : Prop :=
  ∀ r ∈ t.rows, ∀ r' ∈ t.rows, ∃ s ∈ t.rows, q.groupOf s = q.groupOf r ∧ q.keyOf s = q.keyOf r'

/-- Whether a table to be pivoted has no columns but the leading ones and those of the groups. -/
def OnlyGroups (q : Query) (t : Table) : Prop := ∀ c ∈ t.columns.drop q.leading, c.id ∈ q.groupBy

instance : Decidable t.Valueless :=
  inferInstanceAs (Decidable (∀ r ∈ t.rows, ∀ a ∈ r, a.value? = none))

instance : Decidable (Complete q t) :=
  inferInstanceAs (Decidable (∀ r ∈ t.rows, ∀ r' ∈ t.rows, ∃ s ∈ t.rows,
    q.groupOf s = q.groupOf r ∧ q.keyOf s = q.keyOf r'))

/-- A cell for a group and a key is that of a row that has both, or it is null because there is no
such row. -/
lemma crossCell_cases (group key : Row → String) (rows : List Row) (g k : String) (j : Nat) :
    (∃ r ∈ rows, group r = g ∧ key r = k ∧ crossCell group key rows g k j = cellAt r j) ∨
      (∀ r ∈ rows, ¬ (group r = g ∧ key r = k)) ∧ crossCell group key rows g k j = .null := by
  unfold crossCell
  cases hlast : (rows.filter fun r => group r = g ∧ key r = k).getLast? with
  | none =>
    refine .inr ⟨fun r hr hboth => ?_, rfl⟩
    have hnone := List.filter_eq_nil_iff.1 (List.getLast?_eq_none_iff.1 hlast) r hr
    exact hnone (decide_eq_true hboth)
  | some r =>
    obtain ⟨hr, hboth⟩ := List.mem_filter.1 (List.mem_of_getLast? hlast)
    obtain ⟨hgroup, hkey⟩ := of_decide_eq_true hboth
    exact .inl ⟨r, hr, hgroup, hkey, rfl⟩

/-- A group that occurs has the cell of one of its rows. -/
lemma exists_headCell {group : Row → String} {rows : List Row} {g : String}
    (hg : g ∈ rows.map group) (j : Nat) : ∃ r ∈ rows, headCell group rows g j = cellAt r j := by
  obtain ⟨s, hs, hgroup⟩ := List.mem_map.1 hg
  unfold headCell
  cases hhead : (rows.filter fun r => group r = g).head? with
  | none =>
    have hnone := List.filter_eq_nil_iff.1 (List.head?_eq_none_iff.1 hhead) s hs
    exact absurd (decide_eq_true hgroup) hnone
  | some r => exact ⟨r, List.mem_of_mem_filter (List.mem_of_mem_head? hhead), rfl⟩

/-- All cells that a cross table can have: those of the rows of the table, and null for a group and
a key that no row has, in a column that is not one of the groups. -/
lemma IsCrossTable.cell_cases (hp : IsCrossTable q t keys groups p) {out : Row}
    (hout : out ∈ p.rows) {a : Cell} (ha : a ∈ out) :
    (∃ r ∈ t.rows, ∃ j, q.leading ≤ j ∧ j < t.columns.length ∧ a = cellAt r j) ∨
      a = .null ∧ ¬ OnlyGroups q t ∧ ¬ Complete q t := by
  rw [hp.rows] at hout
  obtain ⟨g, hg, rfl⟩ := List.mem_map.1 hout
  obtain ⟨⟨c, j⟩, hc, ha⟩ := List.mem_flatMap.1 ha
  have hg := (hp.firstGroups.mem_iff g).1 hg
  obtain ⟨hle, hlt, hcolumn⟩ := List.mem_zipIdx hc
  have hj : j < t.columns.length := by
    rw [List.length_drop] at hlt
    omega
  dsimp only at ha
  split at ha
  · obtain ⟨r, hr, hcell⟩ := exists_headCell hg j
    exact .inl ⟨r, hr, j, hle, hj, (List.mem_singleton.1 ha).trans hcell⟩
  · next hvalue =>
    obtain ⟨k, hk, rfl⟩ := List.mem_map.1 ha
    have hk := (hp.firstKeys.mem_iff k).1 hk
    rcases crossCell_cases q.groupOf q.keyOf t.rows g k j with ⟨r, hr, -, -, hcell⟩ | ⟨hnone, hcell⟩
    · exact .inl ⟨r, hr, j, hle, hj, hcell⟩
    · refine .inr ⟨hcell, fun honly => hvalue (honly c ?_), fun hcomplete => ?_⟩
      · rw [hcolumn]
        exact List.getElem_mem _
      · obtain ⟨r, hr, rfl⟩ := List.mem_map.1 hg
        obtain ⟨r', hr', rfl⟩ := List.mem_map.1 hk
        obtain ⟨s, hs, hboth⟩ := hcomplete r hr r' hr'
        exact hnone s hs hboth

/-- **Where values are left in a cross table.**  If the table has no values, the cross table has
none exactly if there are only groups or every group occurs with every key.  All that it may have is
null. -/
theorem IsCrossTable.valueless_iff (hp : IsCrossTable q t keys groups p) (hrect : t.Rectangular)
    (ht : t.Valueless) :
    (p.Valueless ↔ OnlyGroups q t ∨ Complete q t) ∧
      ∀ out ∈ p.rows, ∀ a ∈ out, a.value? = none ∨ a.value? = some .null := by
  have hcellAt {r : Row} (hr : r ∈ t.rows) {j : Nat} (hj : j < t.columns.length) :
      (cellAt r j).value? = none := by
    have hlt : j < r.length := (hrect r hr).symm ▸ hj
    rw [cellAt, List.getD_eq_getElem?_getD, List.getElem?_eq_getElem hlt, Option.getD_some]
    exact ht r hr _ (List.getElem_mem hlt)
  refine ⟨⟨fun hnone => ?_, fun hfull out hout a ha => ?_⟩, fun out hout a ha => ?_⟩
  · by_contra hopen
    obtain ⟨honly, hcomplete⟩ := not_or.1 hopen
    -- a column of values, and a group and a key that do not occur together
    simp only [OnlyGroups, Complete, not_forall, not_exists, not_and] at honly hcomplete
    obtain ⟨c, hc, hvalue⟩ := honly
    obtain ⟨r, hr, r', hr', hapart⟩ := hcomplete
    obtain ⟨i, hi⟩ := List.mem_iff_getElem?.1 hc
    rw [List.getElem?_drop] at hi
    have hcolumn : IsValue q t (q.leading + i) c := ⟨Nat.le_add_right _ _, hi, hvalue⟩
    obtain ⟨row, hrow, hcell⟩ := hp.getElem?_rows hcolumn
      ((hp.firstGroups.mem_iff _).2 (List.mem_map_of_mem hr))
      ((hp.firstKeys.mem_iff _).2 (List.mem_map_of_mem hr'))
    have hgone := hnone row (List.mem_of_getElem? hrow) _ (List.mem_of_getElem? hcell)
    rcases crossCell_cases q.groupOf q.keyOf t.rows (q.groupOf r) (q.keyOf r') (q.leading + i) with
      ⟨s, hs, hgroup, hkey, -⟩ | ⟨-, hnull⟩
    · exact hapart s hs hgroup hkey
    · rw [hnull] at hgone
      cases hgone
  · rcases hp.cell_cases hout ha with ⟨r, hr, j, -, hj, rfl⟩ | ⟨-, honly, hcomplete⟩
    · exact hcellAt hr hj
    · exact absurd hfull (not_or.2 ⟨honly, hcomplete⟩)
  · rcases hp.cell_cases hout ha with ⟨r, hr, j, -, hj, rfl⟩ | ⟨rfl, -, -⟩
    · exact .inl (hcellAt hr hj)
    · exact .inr rfl

/-- What is true of the values in a table without texts is true of those in the table. -/
lemma forall_value?_stripTexts {P : Option Value → Prop} :
    (∀ r ∈ t.stripTexts.rows, ∀ a ∈ r, P a.value?) ↔ ∀ r ∈ t.rows, ∀ a ∈ r, P a.value? := by
  simp only [stripTexts, List.forall_mem_map]

end Table

/-! ## Results -/

namespace Session

open Table

variable {s : Session} {text : String} {q : Query} {raw shown result : Table}

/-- Conversion leaves out values if it is asked to. -/
lemma valueless_converted {o : FormatOptions} (ho : o.noValues = true)
    (h : converted q o raw = .ok shown) : shown.Rectangular ∧ shown.Valueless := by
  obtain ⟨labelled, -, hshown⟩ := bind_eq_ok.1 h
  have hgone : shown.Everywhere fun _ a => a.value? = none := by
    refine everywhere_applyFormats (fun c a b hb => ?_) hshown
    obtain ⟨k, d, -, -, rfl⟩ := hb
    rw [o.value?_restrict, ho]
    rfl
  refine ⟨hgone.rectangular, fun r hr a ha => ?_⟩
  obtain ⟨c, -, hnone⟩ := exists_of_forall₂ (hgone r hr) ha
  exact hnone

/-- **Where values are left in a result.**  Let a query ask for values to be left out.  Without a
pivot no cell of the result has a value.  With a pivot that is so exactly if each group of the
converted answer occurs with each key, or if there are no columns but those of the groups.  In any
case no cell has a value other than null. -/
theorem run_noValues (hparse : s.profile.parse text = .ok q) (hvalues : q.noValues = true)
    (hrun : s.run text = .ok result) :
    (q.hasPivot = false → result.Valueless) ∧
    (q.hasPivot = true → ∃ raw shown, s.answer q = .ok raw ∧
      converted q ⟨true, false⟩ raw = .ok shown ∧
      (result.Valueless ↔ OnlyGroups q shown ∨ Complete q shown)) ∧
    ∀ r ∈ result.rows, ∀ a ∈ r, a.value? = none ∨ a.value? = some .null := by
  obtain ⟨q', raw, hq', hraw, hfinish⟩ := exists_of_run hrun
  obtain rfl : q = q' := Except.ok.inj (hparse.symm.trans hq')
  cases hpivot : q.hasPivot with
  | false =>
    rw [finish_of_not_hasPivot hpivot] at hfinish
    obtain ⟨-, hgone⟩ := valueless_converted hvalues hfinish
    exact ⟨fun _ => hgone, nofun, fun r hr a ha => .inl (hgone r hr a ha)⟩
  | true =>
    rw [finish_of_hasPivot hpivot, hvalues] at hfinish
    obtain ⟨shown, hshown, hfinish⟩ := bind_eq_ok.1 hfinish
    obtain ⟨p, hp, hresult⟩ := bind_eq_ok.1 hfinish
    obtain ⟨hrect, hgone⟩ := valueless_converted rfl hshown
    obtain ⟨hiff, hnull⟩ := (isCrossTable_of_pivot hp).valueless_iff hrect hgone
    have hsame (P : Option Value → Prop) :
        (∀ r ∈ result.rows, ∀ a ∈ r, P a.value?) ↔ ∀ r ∈ p.rows, ∀ a ∈ r, P a.value? := by
      cases hformat : q.noFormat with
      | false =>
        rw [hformat] at hresult
        cases hresult
        rfl
      | true =>
        rw [hformat] at hresult
        cases hresult
        exact forall_value?_stripTexts
    refine ⟨nofun, fun _ => ⟨raw, shown, hraw, hshown, (hsame (· = none)).trans hiff⟩, ?_⟩
    exact (hsame fun v? => v? = none ∨ v? = some .null).2 hnull

/-- An answer to a query for the greatest strings `a` for each pair of strings `b` and `c`. -/
def greatestOfPairs (rows : List (String × String × String)) : Table where
  columns := [⟨"b", "", .string, "", none⟩, ⟨"c", "", .string, "", none⟩,
    ⟨"max(a)", "", .string, "", none⟩]
  rows := rows.map fun (b, c, a) =>
    [⟨some (.string b), none⟩, ⟨some (.string c), none⟩, ⟨some (.string a), none⟩]

/-- One group has a row for each of two keys. -/
theorem run_noValues_complete :
    let s := serving (greatestOfPairs [("p", "u", "x"), ("q", "u", "y")])
    let text := "select max(a) group by c pivot b options no_values"
    ∃ q result, s.profile.parse text = .ok q ∧ q.noValues = true ∧ q.hasPivot = true ∧
      s.run text = .ok result ∧ result.Valueless := by
  intro s text
  obtain ⟨q, hparse, htest⟩ := exists_eq_ok (s.profile.parse text)
    (fun q => decide (q.noValues = true ∧ q.hasPivot = true ∧
      ((s.answer q >>= converted q ⟨true, false⟩).toOption.any fun shown => Complete q shown) =
        true)) (by decide +kernel)
  obtain ⟨hvalues, hpivot, hcomplete⟩ := of_decide_eq_true htest
  obtain ⟨result, hrun, -⟩ := exists_eq_ok (s.run text) (fun _ => true) (by decide +kernel)
  obtain ⟨raw, shown, hraw, hshown, hiff⟩ := (run_noValues hparse hvalues hrun).2.1 hpivot
  rw [hraw, ok_bind, hshown] at hcomplete
  exact ⟨q, result, hparse, hvalues, hpivot, hrun, hiff.2 (.inr (of_decide_eq_true hcomplete))⟩

/-- **Null is left over.**  Each of two groups has a row for one of two keys, so there are two
places without a row.  There the result has null although values are to be left out. -/
theorem run_leaves_null :
    let s := serving (greatestOfPairs [("p", "u", "x"), ("q", "v", "y")])
    let text := "select max(a) group by c pivot b options no_values"
    ∃ q result, s.profile.parse text = .ok q ∧ q.noValues = true ∧ s.run text = .ok result ∧
      result.rows =
        [[⟨none, some "x"⟩, ⟨some .null, none⟩], [⟨some .null, none⟩, ⟨none, some "y"⟩]] ∧
      ¬ result.Valueless := by
  intro s text
  obtain ⟨q, hparse, hvalues⟩ := exists_eq_ok (s.profile.parse text)
    (fun q => decide (q.noValues = true)) (by decide +kernel)
  obtain ⟨result, hrun, htest⟩ := exists_eq_ok (s.run text)
    (fun t => decide (t.rows = [[⟨none, some "x"⟩, ⟨some .null, none⟩],
      [⟨some .null, none⟩, ⟨none, some "y"⟩]] ∧ ¬ t.Valueless)) (by decide +kernel)
  obtain ⟨hrows, hvalue⟩ := of_decide_eq_true htest
  exact ⟨q, result, hparse, of_decide_eq_true hvalues, hrun, hrows, hvalue⟩

end Session

end ChartQuery
