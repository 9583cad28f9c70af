import ChartQuery.Proofs.Encodings
import ChartQuery.Proofs.Splitting
import ChartQuery.Response.Tsv

/-!
# The shape of tab separated values

Tab separated values have no quotes.  A reader takes a line for every line feed and a field for
every tab, so fields keep their places only if they have neither.  Tabs are left out of the fields
of a table, but line feeds are not: a table with columns whose rows all have a cell for each column
is read as a line for the titles and a line for each row, with a field for each column, exactly if
there is no line feed in its titles and in the texts of its cells.
-/

namespace ChartQuery.Response.Tsv

/-! ## Reading -/

/-- The lines of a text, each of which ends with a line feed. -/
def lines? (s : String) : Option (List String) :=
  if (Text.split '\n' s).getLast? = some "" then some (Text.split '\n' s).dropLast else none

/-- The fields of the lines that bytes are, behind a byte order mark. -/
def read? (bs : List UInt8) : Option (List (List String)) := do
  let encoded ← Utf16.byteOrderMark.isPrefixOf? bs
  let cs ← Utf16.decode? encoded
  let lines ← lines? (String.ofList cs)
  return lines.map (Text.split '\t')

variable {row ss : List String} {c : Char}

/-- What is read of the bytes of rows. -/
lemma read?_encode (s : String) :
    read? (Utf16.byteOrderMark ++ Utf16.encode s.toList) =
      (lines? s).map fun lines => lines.map (Text.split '\t') := by
  have hmark : Utf16.byteOrderMark.isPrefixOf? (Utf16.byteOrderMark ++ Utf16.encode s.toList) =
      some (Utf16.encode s.toList) := rfl
  simp only [read?, hmark, Option.bind_eq_bind, Option.bind_some, Utf16.decode?_encode,
    String.ofList_toList]
  cases lines? s <;> rfl

/-- The text of lines. -/
def textOfLines (ss : List String) : String := String.join (ss.map (· ++ "\n"))

/-- A text of lines is read as lines, as many as it has line feeds. -/
lemma exists_lines (ss : List String) : ∃ lines, lines? (textOfLines ss) = some lines ∧
    lines.length = (textOfLines ss).toList.count '\n' := by
  cases ss using List.reverseRecOn with
  | nil => exact ⟨[], by simp [lines?, textOfLines, Text.split, Text.fields], rfl⟩
  | append_singleton ts t =>
    have htext : textOfLines (ts ++ [t]) = textOfLines ts ++ t ++ String.singleton '\n' := by
      simp [textOfLines, String.append_assoc]
    rw [htext, lines?, Text.split_concat]
    refine ⟨_, by rw [if_pos (by simp), List.dropLast_concat], ?_⟩
    rw [Text.length_split, String.toList_append (t := String.singleton '\n'),
      String.toList_singleton, List.count_append, List.count_singleton_self]

/-- Lines without line feeds in them are the lines that are read. -/
lemma lines?_textOfLines (h : ∀ s ∈ ss, '\n' ∉ s.toList) : lines? (textOfLines ss) = some ss := by
  have hsplit : Text.split '\n' (textOfLines ss) = ss ++ [""] := Text.split_join h
  rw [lines?, hsplit, if_pos (by simp), List.dropLast_concat]

/-- There are at least as many line feeds as lines, and as many only if no line has one in it. -/
lemma length_le_count (ss : List String) : ss.length ≤ (textOfLines ss).toList.count '\n' ∧
    ((textOfLines ss).toList.count '\n' = ss.length ↔ ∀ s ∈ ss, '\n' ∉ s.toList) := by
  induction ss with
  | nil => exact ⟨Nat.le_refl 0, fun _ => nofun, fun _ => rfl⟩
  | cons s ss ih =>
    obtain ⟨hle, hiff⟩ := ih
    have hcount : (textOfLines (s :: ss)).toList.count '\n' =
        s.toList.count '\n' + (1 + (textOfLines ss).toList.count '\n') := by
      simp [textOfLines, Nat.add_comm]
    rw [List.forall_mem_cons, ← hiff, ← List.count_eq_zero, hcount, List.length_cons]
    omega

/-! ## Written tables -/

/-- A character other than a tab is in a line if it is in one of the fields. -/
lemma mem_line_iff (hc : c ≠ '\t') :
    c ∈ ("\t".intercalate row).toList ↔ ∃ s ∈ row, c ∈ s.toList := by
  induction row with
  | nil => simp
  | cons s row ih =>
    cases row with
    | nil => simp
    | cons t row =>
      rw [String.intercalate_cons_cons, String.toList_append, String.toList_append,
        List.mem_append, List.mem_append, ih]
      simp [hc]

/-- A field of a table has no tabs. -/
lemma tab_notMem_field (s : String) : '\t' ∉ (field s).toList := by
  simp [field]

/-- A line of a table has no line feed in it if the texts have none that it is made from. -/
lemma newline_notMem_line_iff (texts : List String) :
    '\n' ∉ ("\t".intercalate (texts.map field)).toList ↔ ∀ s ∈ texts, '\n' ∉ s.toList := by
  rw [mem_line_iff (by decide)]
  simp [field]

/-- The lines of a table. -/
def linesOfTable (t : Table) : List String := (rowsOfTable t).map "\t".intercalate

/-- The lines of a table have no line feeds in them if its titles and texts have none. -/
lemma newline_notMem_iff (t : Table) : (∀ s ∈ linesOfTable t, '\n' ∉ s.toList) ↔
    ∀ texts ∈ t.titles :: t.texts, ∀ s ∈ texts, '\n' ∉ s.toList := by
  rw [linesOfTable, rowsOfTable, List.map_map, List.forall_mem_map]
  exact forall₂_congr fun texts _ => newline_notMem_line_iff texts

/-- The fields of a line are found again by splitting, if there are any. -/
lemma split_line (hrow : row ≠ []) :
    Text.split '\t' ("\t".intercalate (row.map field)) = row.map field := by
  obtain ⟨s, ss, rfl⟩ := List.exists_cons_of_ne_nil hrow
  have htab : ∀ t ∈ field s :: ss.map field, '\t' ∉ t.toList := fun t ht => by
    obtain ⟨u, -, rfl⟩ := List.mem_map.1 (List.map_cons ▸ ht)
    exact tab_notMem_field u
  exact Text.split_intercalate htab

/-- **The shape of a table is that of its lines exactly if no text has a line feed.**  A rectangular
table with columns is always read as some lines.  They are a line for the titles and a line for each
row, with a field for each column, if and only if no title and no text of a cell has a line feed;
and then they have the titles and the texts without their tabs. -/
theorem exists_read?_ofResponse {r : Response} {t : Table} (herrors : r.errors = [])
    (htable : r.table? = some t) (hcolumns : t.columns ≠ []) (hrows : t.isRectangular = true) :
    ∃ lines, read? (ofResponse r) = some lines ∧
      (lines.map List.length = List.replicate (1 + t.rows.length) t.columns.length ↔
        ∀ texts ∈ t.titles :: t.texts, ∀ s ∈ texts, '\n' ∉ s.toList) ∧
      ((∀ texts ∈ t.titles :: t.texts, ∀ s ∈ texts, '\n' ∉ s.toList) →
        lines = (t.titles :: t.texts).map fun texts => texts.map field) := by
  have htext : print (rows r) = textOfLines (linesOfTable t) := by
    rw [rows, herrors, htable, print, textOfLines, linesOfTable, List.map_map]
    rfl
  have hwidth : ∀ texts ∈ t.titles :: t.texts, texts.length = t.columns.length := by
    rw [List.forall_mem_cons]
    refine ⟨List.length_map .., List.forall_mem_map.2 fun row hrow => ?_⟩
    rw [List.length_map]
    exact beq_iff_eq.1 (List.all_eq_true.1 hrows row hrow)
  have hlength : (linesOfTable t).length = 1 + t.rows.length := by
    simp [linesOfTable, rowsOfTable, Table.texts, Nat.add_comm]
  have hread : ∀ lines, lines? (textOfLines (linesOfTable t)) = some lines →
      read? (ofResponse r) = some (lines.map (Text.split '\t')) := fun lines hlines => by
    rw [ofResponse, read?_encode, htext, hlines]
    rfl
  by_cases hfree : ∀ texts ∈ t.titles :: t.texts, ∀ s ∈ texts, '\n' ∉ s.toList
  · have hlines := hread _ (lines?_textOfLines ((newline_notMem_iff t).2 hfree))
    have hfields : (linesOfTable t).map (Text.split '\t') = rowsOfTable t := by
      rw [linesOfTable, rowsOfTable, List.map_map, List.map_map]
      refine List.map_congr_left fun texts htexts => split_line fun hnil => hcolumns ?_
      rw [← List.length_eq_zero_iff, ← hwidth texts htexts, hnil, List.length_nil]
    rw [hfields] at hlines
    refine ⟨_, hlines, iff_of_true ?_ hfree, fun _ => rfl⟩
    refine List.eq_replicate_iff.2 ⟨by simpa [linesOfTable] using hlength, ?_⟩
    rw [rowsOfTable, List.map_map, List.forall_mem_map]
    exact fun texts htexts => (List.length_map ..).trans (hwidth texts htexts)
  · obtain ⟨lines, hlines, hcount⟩ := exists_lines (linesOfTable t)
    refine ⟨_, hread lines hlines, iff_of_false (fun hshape => hfree ?_) hfree, (absurd · hfree)⟩
    rw [← newline_notMem_iff, ← (length_le_count _).2, hlength, ← hcount]
    simpa using congrArg List.length hshape

/-- A table with a tab in its title and characters beyond ASCII in its cells. -/
theorem exists_read?_ofResponse_tab : ∃ lines,
    read? (ofResponse (.ok ⟨[⟨"a\tb", "", .string, "", none⟩],
      [[⟨some (.string "😀"), none⟩], [⟨some .null, none⟩]]⟩)) = some lines ∧
    lines.map List.length = [1, 1, 1] ∧ lines = [["ab"], ["😀"], [""]] := by
  obtain ⟨lines, hread, hshape, hlines⟩ := exists_read?_ofResponse (r := .ok _) rfl rfl
    (t := ⟨[⟨"a\tb", "", .string, "", none⟩],
      [[⟨some (.string "😀"), none⟩], [⟨some .null, none⟩]]⟩) (by decide) (by decide)
  have hfree : ∀ texts ∈ [["a\tb"], ["😀"], [""]], ∀ s ∈ texts, '\n' ∉ s.toList := by
    simp
  exact ⟨lines, hread, hshape.2 hfree, (hlines hfree).trans (by decide +kernel)⟩

/-- A line feed in a cell makes two lines of one row: a table of one column and one row is read as
three lines. -/
theorem read?_ofResponse_lineFeed :
    let t : Table := ⟨[⟨"a", "", .string, "", none⟩], [[⟨some (.string "x\ny"), none⟩]]⟩
    t.isRectangular = true ∧ read? (ofResponse (.ok t)) = some [["a"], ["x"], ["y"]] ∧
      [["a"], ["x"], ["y"]].map List.length ≠
        List.replicate (1 + t.rows.length) t.columns.length := by
  decide +kernel

end ChartQuery.Response.Tsv
