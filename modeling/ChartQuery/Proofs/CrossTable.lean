import ChartQuery.Proofs.FirstAppearances
import ChartQuery.Proofs.Progress
import ChartQuery.Table.Pivot

/-!
# What a pivoted table holds

A table is pivoted row by row: the cells of each row are put into the row of its group, at the
places of its key.  The outcome does not need the order of this work to be told.  There is one row
for each group and one block of columns for each column that is not one of the groups; the cell for
a group and a key comes from the last row that has both, and a column of the groups has the cell of
the first row of the group.

The work on some rows is described by `crossRows`, `foldRow_crossRows` says that one more row keeps
the description true, and the theorem on all rows follows by induction from the last row.
-/

namespace ChartQuery.Table

/-! ## Rows made column by column -/

/-- The cell of a row at a place. -/
def cellAt (r : Row) (j : Nat) : Cell := r.getD j .null

/-- A row made from columns with their places: one cell for a column of the groups, and a block of
cells for any other. -/
def assemble (groups : List String) (single : Nat → Cell) (block : Nat → List Cell)
    (source : List (Column × Nat)) : Row :=
  source.flatMap fun (c, j) => if c.id ∈ groups then [single j] else block j

section Assemble

variable {groups : List String} {single single' : Nat → Cell} {block block' : Nat → List Cell}

/-- Rows are the same if they are made from the same cells. -/
lemma assemble_congr {source : List (Column × Nat)}
    (hsingle : ∀ p ∈ source, single p.2 = single' p.2)
    (hblock : ∀ p ∈ source, block p.2 = block' p.2) :
    assemble groups single block source = assemble groups single' block' source := by
  refine List.flatMap_congr fun p hp => ?_
  dsimp only
  rw [hsingle p hp, hblock p hp]

/-- The columns of the groups, marked. -/
def marks (groups : List String) (cs : List Column) : List Bool :=
  cs.map fun c => groups.contains c.id

/-- The rest of a row begins with the cell at its place. -/
lemma drop_eq_cellAt_cons {r : Row} {j : Nat} (h : j < r.length) :
    r.drop j = cellAt r j :: r.drop (j + 1) := by
  rw [List.drop_eq_getElem_cons h, cellAt, List.getD_eq_getElem?_getD, List.getElem?_eq_getElem h,
    Option.getD_some]

/-- **A new row** has the cells of the groups, and null at all other places. -/
lemma freshCells_eq (width : Nat) {r : Row} {cs : List Column} {j : Nat}
    (h : j + cs.length ≤ r.length) :
    freshCells width (marks groups cs) (r.drop j) =
      assemble groups (cellAt r) (fun _ => List.replicate width .null) (cs.zipIdx j) := by
  induction cs generalizing j with
  | nil => rfl
  | cons c cs ih =>
    rw [List.length_cons] at h
    have hrest := ih (j := j + 1) (by omega)
    rw [drop_eq_cellAt_cons (by omega), marks, List.map_cons, freshCells, ← marks, hrest,
      List.zipIdx_cons, assemble, assemble, List.flatMap_cons]
    by_cases hc : c.id ∈ groups <;> simp [hc]

/-- **One more row of a group** puts a cell into each block, at the place of its key. -/
lemma placeCells_assemble {width offset : Nat} (hblock : ∀ j, (block j).length = width) {r : Row}
    {cs : List Column} {j : Nat} (h : j + cs.length ≤ r.length) :
    placeCells width offset (marks groups cs) (r.drop j)
        (assemble groups single block (cs.zipIdx j)) =
      assemble groups single (fun i => (block i).set offset (cellAt r i)) (cs.zipIdx j) := by
  induction cs generalizing j with
  | nil => rfl
  | cons c cs ih =>
    rw [List.length_cons] at h
    have hrest := ih (j := j + 1) (by omega)
    have hmarks : marks groups (c :: cs) = groups.contains c.id :: marks groups cs := rfl
    have hcons (single : Nat → Cell) (block : Nat → List Cell) :
        assemble groups single block ((c :: cs).zipIdx j) =
          (if c.id ∈ groups then [single j] else block j) ++
            assemble groups single block (cs.zipIdx (j + 1)) := by
      rw [List.zipIdx_cons, assemble, List.flatMap_cons, assemble]
    rw [drop_eq_cellAt_cons (by omega), hmarks, placeCells, hcons, hcons, ← hrest]
    by_cases hc : c.id ∈ groups
    · simp [hc]
    · have hlength : (block j).length = width := hblock j
      simp [hc, ← hlength]

/-- A row has one cell for each of its columns. -/
lemma length_assemble {keys : List String} (hblock : ∀ j, (block j).length = keys.length)
    (cs : List Column) (j : Nat) :
    (assemble groups single block (cs.zipIdx j)).length = (pivotColumns groups keys cs).length := by
  induction cs generalizing j with
  | nil => rfl
  | cons c cs ih =>
    have hrest := ih (j + 1)
    rw [assemble, pivotColumns] at hrest ⊢
    rw [List.zipIdx_cons, List.flatMap_cons, List.flatMap_cons, List.length_append,
      List.length_append, hrest]
    by_cases hc : c.id ∈ groups <;> simp [hc, hblock]

end Assemble

/-! ## Cells of groups and keys -/

section Cells

variable (group key : Row → String) (rows : List Row) (g k : String) (j : Nat)

/-- The cell at a place in the first row of a group. -/
def headCell : Cell := (rows.filter fun r => group r = g).head?.elim .null (cellAt · j)

/-- The cell at a place in the last row that has a group and a key; null if there is none. -/
def crossCell : Cell :=
  (rows.filter fun r => group r = g ∧ key r = k).getLast?.elim .null (cellAt · j)

variable {group key rows g k j} {r : Row}

/-- The first row of a group that is there stays the first. -/
lemma headCell_concat (h : g ∈ rows.map group) :
    headCell group (rows ++ [r]) g j = headCell group rows g j := by
  obtain ⟨s, hs, hgroup⟩ := List.mem_map.1 h
  have hmem : s ∈ rows.filter fun r => group r = g :=
    List.mem_filter.2 ⟨hs, by simpa using hgroup⟩
  have hne : rows.filter (fun r => group r = g) ≠ [] := List.ne_nil_of_mem hmem
  rw [headCell, headCell, List.filter_append, List.head?_append_of_ne_nil _ hne]

/-- The first row of a group begins it. -/
lemma headCell_concat_self (h : group r ∉ rows.map group) :
    headCell group (rows ++ [r]) (group r) j = cellAt r j := by
  have hnone : rows.filter (fun s => group s = group r) = [] := by
    rw [List.filter_eq_nil_iff]
    intro s hs hgroup
    exact h (List.mem_map.2 ⟨s, hs, by simpa using hgroup⟩)
  rw [headCell, List.filter_append, hnone]
  simp

/-- A group that is not there has no cells. -/
lemma crossCell_of_notMem (h : g ∉ rows.map group) : crossCell group key rows g k j = .null := by
  have hnone : rows.filter (fun s => group s = g ∧ key s = k) = [] := by
    rw [List.filter_eq_nil_iff]
    intro s hs hboth
    exact h (List.mem_map.2 ⟨s, hs, (of_decide_eq_true hboth).1⟩)
  rw [crossCell, hnone]
  rfl

/-- One more row gives its cell to its group and key, and changes no other. -/
lemma crossCell_concat : crossCell group key (rows ++ [r]) g k j =
    if group r = g ∧ key r = k then cellAt r j else crossCell group key rows g k j := by
  rw [crossCell, crossCell, List.filter_append]
  by_cases h : group r = g ∧ key r = k
  · simp [h]
  · simp [h]

end Cells

/-! ## Rows of groups -/

section Rows

variable (group key : Row → String) (groups keys : List String) (source : List (Column × Nat))
  (rows : List Row)

/-- The row of a group, as far as the given rows determine it. -/
def crossRow (g : String) : Row :=
  assemble groups (headCell group rows g) (fun j => keys.map fun k => crossCell group key rows g k j)
    source

/-- The rows of all groups in the order in which they appear first, each with its group. -/
def crossRows : List (String × Row) :=
  (rows.map group).eraseDups.map fun g => (g, crossRow group key groups keys source rows g)

variable {group key groups keys source rows}

/-- **Changing one group** changes it where it stands, or adds it at the end. -/
lemma updateGroup_map {gs : List String} (hgs : gs.Nodup) (name : String) (fresh : Row)
    (change : Row → Row) (f : String → Row) :
    updateGroup name fresh change (gs.map fun g => (g, f g)) =
      if name ∈ gs then gs.map fun g => (g, if g = name then change (f g) else f g)
      else (gs.map fun g => (g, f g)) ++ [(name, change fresh)] := by
  induction gs with
  | nil => rfl
  | cons g gs ih =>
    obtain ⟨hg, hgs⟩ := List.nodup_cons.1 hgs
    rw [List.map_cons, updateGroup]
    by_cases hname : g = name
    · subst hname
      have hothers : (gs.map fun h => (h, if h = g then change (f h) else f h)) =
          gs.map fun h => (h, f h) := by
        refine List.map_congr_left fun h hh => ?_
        have hne : h ≠ g := fun heq => hg (heq ▸ hh)
        rw [if_neg hne]
      rw [if_pos rfl, if_pos List.mem_cons_self, List.map_cons, if_pos rfl, hothers]
    · rw [if_neg hname, ih hgs]
      by_cases hmem : name ∈ gs
      · rw [if_pos hmem, if_pos (List.mem_cons_of_mem g hmem), List.map_cons, if_neg hname]
      · have hnot : name ∉ g :: gs := by
          rw [List.mem_cons]
          rintro (rfl | h)
          · exact hname rfl
          · exact hmem h
        rw [if_neg hmem, if_neg hnot, List.cons_append]

/-- A cell put at the place of a key is the cell of that key. -/
lemma set_idxOf {ks : List String} (hks : ks.Nodup) (k : String) (c : Cell) (f : String → Cell) :
    (ks.map f).set (ks.idxOf k) c = ks.map fun x => if k = x then c else f x := by
  induction ks with
  | nil => rfl
  | cons x ks ih =>
    obtain ⟨hx, hks⟩ := List.nodup_cons.1 hks
    by_cases hkx : k = x
    · subst hkx
      have hothers : (ks.map fun y => if k = y then c else f y) = ks.map f := by
        refine List.map_congr_left fun y hy => ?_
        have hne : k ≠ y := fun heq => hx (heq ▸ hy)
        rw [if_neg hne]
      rw [List.idxOf_cons_self, List.map_cons, List.set_cons_zero, List.map_cons, if_pos rfl,
        hothers]
    · rw [List.idxOf_cons_ne ks (Ne.symm hkx), List.map_cons, List.set_cons_succ, ih hks,
        List.map_cons, if_neg hkx]

/-- The blocks of a group after one more row. -/
lemma set_crossCell (hkeys : keys.Nodup) (r : Row) (j : Nat) :
    (keys.map fun k => crossCell group key rows (group r) k j).set (keys.idxOf (key r))
        (cellAt r j) =
      keys.map fun k => crossCell group key (rows ++ [r]) (group r) k j := by
  rw [set_idxOf hkeys]
  refine List.map_congr_left fun k _ => ?_
  rw [crossCell_concat]
  simp

/-- The row of a group has a cell for each pivoted column. -/
lemma length_crossRow (cs : List Column) (j : Nat) (g : String) :
    (crossRow group key groups keys (cs.zipIdx j) rows g).length =
      (pivotColumns groups keys cs).length :=
  length_assemble (fun _ => List.length_map _) cs j

/-- The row of another group stays as it was. -/
lemma crossRow_concat_of_ne {r : Row} {g : String} (hg : g ∈ rows.map group) (hne : group r ≠ g) :
    crossRow group key groups keys source (rows ++ [r]) g =
      crossRow group key groups keys source rows g := by
  refine assemble_congr (fun p _ => headCell_concat hg) fun p _ => ?_
  refine List.map_congr_left fun k _ => ?_
  rw [crossCell_concat, if_neg (fun h => hne h.1)]

/-- **One more row keeps the description true.** -/
lemma foldRow_crossRows {n m : Nat} {cs : List Column} (hkeys : keys.Nodup) {r : Row}
    (h : n + m + cs.length ≤ r.length) :
    foldRow n m keys (marks groups cs)
        (crossRows (groupKey n m) (pivotKey n) groups keys (cs.zipIdx (n + m)) rows) r =
      crossRows (groupKey n m) (pivotKey n) groups keys (cs.zipIdx (n + m)) (rows ++ [r]) := by
  set group := groupKey n m with hgroup
  set key := pivotKey n with hkey
  have hgroups := (firstAppearances_eraseDups (rows.map group)).nodup
  have hplaced (single : Nat → Cell) :
      placeCells keys.length (keys.idxOf (key r)) (marks groups cs) (r.drop (n + m))
          (assemble groups single (fun j => keys.map fun k => crossCell group key rows (group r) k j)
            (cs.zipIdx (n + m))) =
        assemble groups single
          (fun j => keys.map fun k => crossCell group key (rows ++ [r]) (group r) k j)
          (cs.zipIdx (n + m)) := by
    rw [placeCells_assemble (fun j => List.length_map _) h]
    exact assemble_congr (fun _ _ => rfl) fun p _ => set_crossCell hkeys r p.2
  unfold foldRow
  rw [← hgroup, ← hkey, crossRows, updateGroup_map hgroups, crossRows, List.map_append,
    List.map_singleton, eraseDups_concat]
  by_cases hmem : group r ∈ rows.map group
  · rw [if_pos (List.mem_eraseDups.2 hmem), if_pos hmem]
    refine List.map_congr_left fun g hg => ?_
    by_cases hself : g = group r
    · subst hself
      rw [if_pos rfl, crossRow, hplaced, crossRow]
      exact congrArg _ (assemble_congr (fun _ _ => (headCell_concat hmem).symm) fun _ _ => rfl)
    · rw [if_neg hself, crossRow_concat_of_ne (List.mem_eraseDups.1 hg) (Ne.symm hself)]
  · have hfresh : freshCells keys.length (marks groups cs) (r.drop (n + m)) =
        assemble groups (cellAt r)
          (fun j => keys.map fun k => crossCell group key rows (group r) k j)
          (cs.zipIdx (n + m)) := by
      rw [freshCells_eq keys.length h]
      refine assemble_congr (fun _ _ => rfl) fun p _ => ?_
      simp [crossCell_of_notMem hmem]
    rw [if_neg (mt List.mem_eraseDups.1 hmem), if_neg hmem, hfresh, hplaced, List.map_append,
      List.map_singleton]
    congr 1
    · refine List.map_congr_left fun g hg => ?_
      have hgmem := List.mem_eraseDups.1 hg
      have hne : group r ≠ g := fun heq => hmem (heq ▸ hgmem)
      rw [crossRow_concat_of_ne hgmem hne]
    · rw [crossRow]
      congr 2
      exact assemble_congr (fun p _ => (headCell_concat_self hmem).symm) fun _ _ => rfl

/-- **All rows**, folded one after another. -/
theorem foldl_foldRow {n m : Nat} {cs : List Column} (hkeys : keys.Nodup)
    (h : ∀ r ∈ rows, n + m + cs.length ≤ r.length) :
    rows.foldl (foldRow n m keys (marks groups cs)) [] =
      crossRows (groupKey n m) (pivotKey n) groups keys (cs.zipIdx (n + m)) rows := by
  induction rows using List.reverseRecOn with
  | nil => rfl
  | append_singleton rows r ih =>
    have hrows : ∀ s ∈ rows, n + m + cs.length ≤ s.length := fun s hs =>
      h s (List.mem_append_left _ hs)
    have hlast : n + m + cs.length ≤ r.length := h r (by simp)
    rw [List.foldl_append, ih hrows, List.foldl_cons, List.foldl_nil, foldRow_crossRows hkeys hlast]

end Rows

end ChartQuery.Table

namespace ChartQuery

/-! ## Pivoted tables -/

namespace Query

/-- The number of columns that a result to be pivoted begins with. -/
def leading (q : Query) : Nat := q.pivot.length + q.groupBy.length

/-- The key of a row: the texts of its first cells, as many as the pivot has columns, with commas
between them. -/
def keyOf (q : Query) (r : Row) : String :=
  ",".intercalate ((r.take q.pivot.length).map Cell.text)

/-- The group of a row: the texts of the next cells, as many as there are groups, each behind a
tab. -/
def groupOf (q : Query) (r : Row) : String :=
  String.join (((r.drop q.pivot.length).take q.groupBy.length).map fun c => "\t" ++ c.text)

end Query

namespace Table

/-- Whether a table cannot be pivoted for a query: it has too few columns, or a row that does not
have a cell for each of them. -/
def Misshapen (q : Query) (t : Table) : Prop :=
  t.columns.length < q.leading ∨ ∃ r ∈ t.rows, r.length ≠ t.columns.length

/-- `IsCrossTable q t keys groups p`: the table `p` is `t` pivoted for a query, with the given keys
and groups.  A column of the groups is kept once, and has the cell of the first row of each group;
any other becomes a column for each key, and has the cells of the last rows with group and key. -/
structure IsCrossTable (q : Query) (t : Table) (keys groups : List String) (p : Table) :
    Prop where
  firstKeys : FirstAppearances keys (t.rows.map q.keyOf)
  firstGroups : FirstAppearances groups (t.rows.map q.groupOf)
  columns : p.columns = (t.columns.drop q.leading).flatMap fun c =>
    if c.id ∈ q.groupBy then [c]
    else keys.map fun k => { c with id := k ++ " " ++ c.id, label := k ++ " " ++ c.title }
  rows : p.rows = groups.map fun g =>
    ((t.columns.drop q.leading).zipIdx q.leading).flatMap fun (c, j) =>
      if c.id ∈ q.groupBy then [headCell q.groupOf t.rows g j]
      else keys.map fun k => crossCell q.groupOf q.keyOf t.rows g k j
  rectangular : p.Rectangular

/-- **What is pivoted is a cross table**, if the table has the right shape. -/
lemma isCrossTable_pivoted {q : Query} {t : Table} (h : ¬ Misshapen q t) :
    IsCrossTable q t (t.rows.map q.keyOf).eraseDups (t.rows.map q.groupOf).eraseDups
      (pivoted q t) := by
  obtain ⟨hcolumns, hrows⟩ := not_or.1 h
  have hkeys := firstAppearances_eraseDups (t.rows.map q.keyOf)
  have hlength : ∀ r ∈ t.rows, q.leading + (t.columns.drop q.leading).length ≤ r.length := by
    intro r hr
    have hr : r.length = t.columns.length := by
      by_contra hne
      exact hrows ⟨r, hr, hne⟩
    rw [List.length_drop]
    omega
  have hcols : (pivoted q t).columns = pivotColumns q.groupBy (t.rows.map q.keyOf).eraseDups
      (t.columns.drop q.leading) := rfl
  have hfolded : (pivoted q t).rows = (crossRows q.groupOf q.keyOf q.groupBy
      (t.rows.map q.keyOf).eraseDups ((t.columns.drop q.leading).zipIdx q.leading) t.rows).map
        Prod.snd :=
    congrArg (List.map Prod.snd) (foldl_foldRow hkeys.nodup hlength)
  rw [crossRows, List.map_map] at hfolded
  refine ⟨hkeys, firstAppearances_eraseDups _, ?_, hfolded, ?_⟩
  · rw [hcols, pivotColumns]
    simp only [List.contains_iff_mem]
    rfl
  · intro r hr
    rw [hfolded] at hr
    obtain ⟨g, -, rfl⟩ := List.mem_map.1 hr
    rw [hcols]
    exact length_crossRow (t.columns.drop q.leading) q.leading g

/-- All that pivoting can do: it makes a cross table of a table of the right shape, and leaves any
other as it is. -/
lemma pivot_cases (q : Query) (t : Table) :
    (¬ Misshapen q t ∧ pivot q t = .done (pivoted q t)) ∨
      (Misshapen q t ∧ ∃ f, pivot q t = .stopped t f ∧ f.reason = .internalError) := by
  unfold pivot
  dsimp only
  by_cases hwidth : t.columns.length < q.pivot.length + q.groupBy.length
  · rw [if_pos hwidth]
    exact .inr ⟨.inl hwidth, _, rfl, rfl⟩
  · rw [if_neg hwidth]
    rcases checkShape_cases t with ⟨hrect, hok⟩ | ⟨hrect, f, herror, hreason⟩
    · rw [hok]
      refine .inl ⟨?_, rfl⟩
      rintro (hfew | ⟨r, hr, hne⟩)
      · exact hwidth hfew
      · exact hne (hrect r hr)
    · rw [herror]
      refine .inr ⟨.inr ?_, f, rfl, hreason⟩
      by_contra hnone
      refine hrect fun r hr => ?_
      by_contra hne
      exact hnone ⟨r, hr, hne⟩

/-- A table that could be pivoted becomes the cross table of its keys and groups. -/
lemma isCrossTable_of_pivot {q : Query} {t p : Table} (h : (pivot q t).toExcept = .ok p) :
    IsCrossTable q t (t.rows.map q.keyOf).eraseDups (t.rows.map q.groupOf).eraseDups p := by
  rcases pivot_cases q t with ⟨hshape, hdone⟩ | ⟨-, f, hstopped, -⟩
  · rw [hdone] at h
    have hp : pivoted q t = p := Except.ok.inj h
    exact hp ▸ isCrossTable_pivoted hshape
  · rw [hstopped] at h
    cases h

/-- **What pivoting computes.**  A table is not pivoted exactly if it has fewer columns than the
pivot and the groups, or a row without a cell for each column; that is an internal error, and the
table stays as it is.  Otherwise the outcome is a cross table: there is one row for each text of the
groups and one column for each text of the pivot, both in the order in which they appear first. -/
theorem pivot_eq_crossTable (q : Query) (t : Table) :
    ((∃ f, (pivot q t).failure? = some f) ↔ Misshapen q t) ∧
    (∀ f, (pivot q t).failure? = some f →
      f.reason = .internalError ∧ (pivot q t).value = t) ∧
    ((pivot q t).failure? = none →
      ∃ keys groups, IsCrossTable q t keys groups (pivot q t).value) := by
  rcases pivot_cases q t with ⟨hshape, hdone⟩ | ⟨hshape, f, hstopped, hreason⟩
  · rw [hdone]
    refine ⟨iff_of_false ?_ hshape, ?_, fun _ => ⟨_, _, isCrossTable_pivoted hshape⟩⟩
    · rintro ⟨f, hf⟩
      cases hf
    · intro f hf
      cases hf
  · rw [hstopped]
    refine ⟨iff_of_true ⟨f, rfl⟩ hshape, ?_, nofun⟩
    rintro _ ⟨⟩
    exact ⟨hreason, rfl⟩

/-- A pivot by meals and departments: the second department has no breakfast, and two rows for
dinner.  In a table that is pivoted to no avail a cell is missing. -/
theorem pivot_eq_crossTable_meals :
    let q : Query := { Query.all with star := false, pivot := ["meal"], groupBy := ["dept"] }
    let columns : List Column := [⟨"meal", "", .string, "", none⟩, ⟨"dept", "", .string, "", none⟩,
      ⟨"dept", "Name", .string, "", none⟩, ⟨"sum(cost)", "Cost", .number, "", none⟩]
    let row (meal dept : String) (cost : Int) : Row := [⟨some (.string meal), none⟩,
      ⟨some (.string dept), none⟩, ⟨some (.string dept), none⟩, ⟨some (.int cost), none⟩]
    let t : Table := ⟨columns, [row "breakfast" "A" 1, row "dinner" "B" 2, row "dinner" "A" 3,
      row "dinner" "B" 4]⟩
    let p : Table := ⟨[⟨"dept", "Name", .string, "", none⟩,
        ⟨"breakfast sum(cost)", "breakfast Cost", .number, "", none⟩,
        ⟨"dinner sum(cost)", "dinner Cost", .number, "", none⟩],
      [[⟨some (.string "A"), none⟩, ⟨some (.int 1), none⟩, ⟨some (.int 3), none⟩],
        [⟨some (.string "B"), none⟩, .null, ⟨some (.int 4), none⟩]]⟩
    let short : Table := ⟨columns, [(row "dinner" "A" 1).take 3]⟩
    (pivot q t).failure? = none ∧ (pivot q t).value = p ∧
      IsCrossTable q t ["breakfast", "dinner"] ["\tA", "\tB"] p ∧
      ∃ f, (pivot q short).failure? = some f ∧ f.reason = .internalError ∧
        (pivot q short).value = short := by
  intro q columns row t p short
  obtain ⟨-, -, hcross⟩ := pivot_eq_crossTable q t
  obtain ⟨hiff, hfailed, -⟩ := pivot_eq_crossTable q short
  have hdone : (pivot q t).failure? = none := by decide +kernel
  have hvalue : (pivot q t).value = p := by decide +kernel
  obtain ⟨keys, groups, hcross⟩ := hcross hdone
  have hkeys : keys = ["breakfast", "dinner"] := by
    rw [hcross.firstKeys.unique (firstAppearances_eraseDups _)]
    decide +kernel
  have hgroups : groups = ["\tA", "\tB"] := by
    rw [hcross.firstGroups.unique (firstAppearances_eraseDups _)]
    decide +kernel
  subst hkeys hgroups
  have hshort : Misshapen q short := .inr ⟨_, List.mem_cons_self, by decide⟩
  obtain ⟨f, hf⟩ := hiff.2 hshort
  exact ⟨hdone, hvalue, hvalue ▸ hcross, f, hf, hfailed f hf⟩

end Table

end ChartQuery
