import ChartQuery.Response.Csv
import Mathlib.Data.List.Induction
import Mathlib.Tactic.Common

/-!
# Comma separated values are read back

A reader of comma separated values goes through a text character by character.  A field stands
between quotes, and a quote that is not doubled ends it; a comma leads to the next field, and a line
feed ends the row.  An empty line is a row of no fields.

The reader keeps what it has read, and at every step the text of what it has read is the text that
it has gone through.  So it accepts no text but the printed ones, and these it reads as the rows
that were printed, whatever quotes, commas and line ends are in their fields.
-/

namespace ChartQuery.Response.Csv

/-! ## Reading -/

/-- Where a reader stands: at the beginning of a line, behind a comma, in a field, or behind a quote
in a field, which ends the field unless another quote follows.  It has the fields before this one,
and the characters of this field. -/
inductive Place
  | line
  | comma (before : List String)
  | within (before : List String) (chars : List Char)
  | quote (before : List String) (chars : List Char)

/-- A reader with the rows that are complete. -/
structure Reader where
  rows : List (List String)
  place : Place

/-- What a reader does at a character.  There is none where a line or what follows a comma does not
begin with a quote, and where a field is followed by something else than a comma or the end of the
line. -/
def Reader.step (r : Reader) (c : Char) : Option Reader :=
  match r.place with
  | .line =>
    if c = '\n' then some ⟨r.rows ++ [[]], .line⟩
    else if c = '\x22' then some ⟨r.rows, .within [] []⟩
    else none
  | .comma fs => if c = '\x22' then some ⟨r.rows, .within fs []⟩ else none
  | .within fs s =>
    if c = '\x22' then some ⟨r.rows, .quote fs s⟩ else some ⟨r.rows, .within fs (s ++ [c])⟩
  | .quote fs s =>
    if c = '\x22' then some ⟨r.rows, .within fs (s ++ ['\x22'])⟩
    else if c = ',' then some ⟨r.rows, .comma (fs ++ [String.ofList s])⟩
    else if c = '\n' then some ⟨r.rows ++ [fs ++ [String.ofList s]], .line⟩
    else none

/-- The rows of a reader that has come to its end, which must be the end of a line. -/
def Reader.finish (r : Reader) : Option (List (List String)) :=
  match r.place with
  | .line => some r.rows
  | _ => none

/-- A reader that goes through characters. -/
def Reader.run (r : Reader) (cs : List Char) : Option Reader := cs.foldlM step r

/-- The rows that a text of comma separated values consists of. -/
def read? (s : String) : Option (List (List String)) :=
  (Reader.run ⟨[], .line⟩ s.toList).bind Reader.finish

variable {r r' : Reader} {rows : List (List String)} {before : List String} {s cs : List Char}
  {c : Char}

/-- Going through one text and then through another. -/
lemma Reader.run_append (r : Reader) (cs ds : List Char) :
    r.run (cs ++ ds) = (r.run cs).bind fun r' => r'.run ds :=
  List.foldlM_append

/-- Going through the first character. -/
lemma Reader.run_cons (r : Reader) (c : Char) (cs : List Char) :
    r.run (c :: cs) = (r.step c).bind fun r' => r'.run cs :=
  List.foldlM_cons

/-! ## Characters of printed texts -/

/-- A character of a field as it is written. -/
def written (c : Char) : List Char := if c = '\x22' then ['\x22', '\x22'] else [c]

/-- A field with its quotes. -/
def quoted (s : List Char) : List Char := '\x22' :: (s.flatMap written ++ ['\x22'])

/-- Fields with a comma behind each. -/
def leading (fs : List String) : List Char := fs.flatMap fun f => quoted f.toList ++ [',']

/-- The characters of a field. -/
lemma toList_field (f : String) : (field f).toList = quoted f.toList := by
  simp only [field, Text.doubled, Text.replaceEach, String.toList_append, String.toList_ofList]
  rfl

/-- The characters of a row of no fields. -/
lemma toList_line_nil : (line []).toList = ['\n'] := by
  simp [line]

/-- The characters of a row, whose last field has no comma behind it. -/
lemma toList_line_concat (fs : List String) (f : String) :
    (line (fs ++ [f])).toList = leading fs ++ (quoted f.toList ++ ['\n']) := by
  have hfields : (",".intercalate ((fs ++ [f]).map field)).toList =
      leading fs ++ quoted f.toList := by
    induction fs with
    | nil => simp [leading, toList_field]
    | cons g fs ih =>
      have hne : (fs ++ [f]).map field ≠ [] := by simp
      rw [List.cons_append, List.map_cons, String.intercalate_cons_of_ne_nil hne,
        String.toList_append, String.toList_append, ih, toList_field]
      simp [leading]
  rw [line, String.toList_append, hfields, List.append_assoc]
  rfl

/-- The last row stands behind the others. -/
lemma print_concat (rows : List (List String)) (row : List String) :
    print (rows ++ [row]) = print rows ++ line row := by
  rw [print, List.map_append, String.join_append]
  simp [print]

/-! ## Printed texts are read -/

/-- The characters of a field are read as the field, up to the quote behind them. -/
lemma run_contents (s t : List Char) :
    Reader.run ⟨rows, .within before s⟩ (t.flatMap written ++ ['\x22']) =
      some ⟨rows, .quote before (s ++ t)⟩ := by
  induction t generalizing s with
  | nil => simp [Reader.run, Reader.step]
  | cons c t ih =>
    have ih := ih (s ++ [c])
    rw [List.append_assoc, List.singleton_append] at ih
    rw [← ih]
    by_cases hc : c = '\x22'
    · simp [Reader.run, Reader.step, written, hc]
    · simp [Reader.run, Reader.step, written, hc]

/-- A field behind a comma is read up to the quote that ends it. -/
lemma run_quoted (s : List Char) :
    Reader.run ⟨rows, .comma before⟩ (quoted s) = some ⟨rows, .quote before s⟩ :=
  run_contents [] s

/-- Fields with a comma behind each are read. -/
lemma run_leading (fs : List String) :
    Reader.run ⟨rows, .comma before⟩ (leading fs) = some ⟨rows, .comma (before ++ fs)⟩ := by
  induction fs generalizing before with
  | nil => simp [leading, Reader.run]
  | cons f fs ih =>
    have hcomma : Reader.run ⟨rows, .quote before f.toList⟩ [','] =
        some ⟨rows, .comma (before ++ [f])⟩ := by
      simp [Reader.run, Reader.step]
    have hleading : leading (f :: fs) = quoted f.toList ++ ([','] ++ leading fs) := by
      simp [leading]
    rw [hleading, Reader.run_append, run_quoted, Option.bind_some, Reader.run_append, hcomma,
      Option.bind_some, ih, List.append_assoc, List.singleton_append]

/-- A row is read at the beginning of a line. -/
lemma run_line (row : List String) :
    Reader.run ⟨rows, .line⟩ (line row).toList = some ⟨rows ++ [row], .line⟩ := by
  cases row using List.reverseRecOn with
  | nil => simp [toList_line_nil, Reader.run, Reader.step]
  | append_singleton fs f =>
    -- A row that is not empty begins with a quote, as does what follows on a comma.
    have hstart : Reader.run ⟨rows, .line⟩ (line (fs ++ [f])).toList =
        Reader.run ⟨rows, .comma []⟩ (line (fs ++ [f])).toList := by
      obtain ⟨cs, hcs⟩ : ∃ cs, (line (fs ++ [f])).toList = '\x22' :: cs := by
        rw [toList_line_concat]
        cases fs <;> exact ⟨_, rfl⟩
      rw [hcs, Reader.run_cons, Reader.run_cons]
      rfl
    have hend : Reader.run ⟨rows, .quote fs f.toList⟩ ['\n'] =
        some ⟨rows ++ [fs ++ [f]], .line⟩ := by
      simp [Reader.run, Reader.step]
    rw [hstart, toList_line_concat, Reader.run_append, run_leading, List.nil_append,
      Option.bind_some, Reader.run_append, run_quoted, Option.bind_some, hend]

/-- Rows are read one after another. -/
lemma run_print (rows : List (List String)) :
    Reader.run ⟨[], .line⟩ (print rows).toList = some ⟨rows, .line⟩ := by
  induction rows using List.reverseRecOn with
  | nil => rfl
  | append_singleton rows row ih =>
    rw [print_concat, String.toList_append, Reader.run_append, ih, Option.bind_some, run_line]

/-! ## Only printed texts are read -/

/-- The text that a reader has gone through. -/
def Reader.text (r : Reader) : List Char :=
  (print r.rows).toList ++
    match r.place with
    | .line => []
    | .comma fs => leading fs
    | .within fs s => leading fs ++ '\x22' :: s.flatMap written
    | .quote fs s => leading fs ++ quoted s

/-- At each step the text grows by the character that is read. -/
lemma Reader.text_step (h : r.step c = some r') : r'.text = r.text ++ [c] := by
  obtain ⟨rows, place⟩ := r
  cases place with
  | line =>
    simp only [step] at h
    split at h
    · next hc =>
      cases h
      simp [text, print_concat, toList_line_nil, hc]
    split at h
    · next hc =>
      cases h
      simp [text, leading, hc]
    · cases h
  | comma fs =>
    simp only [step] at h
    split at h
    · next hc =>
      cases h
      simp [text, hc]
    · cases h
  | within fs s =>
    simp only [step] at h
    split at h
    · next hc =>
      cases h
      simp [text, quoted, hc]
    · next hc =>
      cases h
      simp [text, written, hc]
  | quote fs s =>
    simp only [step] at h
    split at h
    · next hc =>
      cases h
      simp [text, quoted, written, hc]
    split at h
    · next hc =>
      cases h
      simp [text, leading, hc]
    split at h
    · next hc =>
      cases h
      simp [text, print_concat, toList_line_concat, hc]
    · cases h

/-- A reader has gone through what it had gone through before and the characters it was given. -/
lemma Reader.text_run (h : r.run cs = some r') : r'.text = r.text ++ cs := by
  induction cs generalizing r with
  | nil =>
    cases h
    rw [List.append_nil]
  | cons c cs ih =>
    rw [run_cons] at h
    obtain ⟨r₁, hstep, hrun⟩ := Option.bind_eq_some_iff.1 h
    rw [ih hrun, text_step hstep, List.append_assoc, List.singleton_append]

/-- **A text is read as rows exactly if it is the text of these rows.** -/
theorem read?_eq_some_iff {s : String} : read? s = some rows ↔ s = print rows := by
  constructor
  · intro h
    obtain ⟨⟨rows', place⟩, hrun, hfinish⟩ := Option.bind_eq_some_iff.1 h
    cases place with
    | line =>
      cases hfinish
      have htext := Reader.text_run hrun
      simp only [Reader.text, List.append_nil] at htext
      exact String.toList_injective (htext.symm.trans (by simp [print]))
    | comma | within | quote => cases hfinish
  · rintro rfl
    rw [read?, run_print]
    rfl

/-! ## Responses -/

/-- **Comma separated values carry the response.**  What is read of a response that failed is a row
for each failure, with its reason and its message, in order.  What is read of a table are the titles
of its columns, and then the texts of the cells of each row. -/
theorem read?_ofResponse (r : Response) :
    (∀ t, r.errors = [] → r.table? = some t →
      read? (ofResponse r) =
        some (t.columns.map Column.title :: t.rows.map fun cells => cells.map Cell.text)) ∧
    (r.errors ≠ [] →
      read? (ofResponse r) = some (r.errors.map fun e => [e.reason.text, e.message])) := by
  refine ⟨fun t herrors htable => read?_eq_some_iff.2 ?_, fun herrors => read?_eq_some_iff.2 ?_⟩
  · rw [ofResponse, rows, herrors, htable]
    rfl
  · rw [ofResponse, rows, if_neg (by simpa using herrors)]

/-- A table whose title has a comma and whose only cell has a quote and an end of a line, and then a
response with two failures. -/
theorem read?_ofResponse_quote :
    read? (ofResponse (.ok ⟨[⟨"a,b", "", .string, "", none⟩],
        [[⟨some (.string "say \x22x\x22\n"), none⟩], []]⟩)) =
      some [["a,b"], ["say \x22x\x22\n"], []] ∧
    read? (ofResponse ⟨none, .error, none,
        [⟨.invalidQuery, "unexpected 'x'"⟩, ⟨.accessDenied, ""⟩]⟩) =
      some [["invalid_query", "unexpected 'x'"], ["access_denied", ""]] :=
  ⟨((read?_ofResponse _).1 _ rfl rfl).trans (by decide +kernel),
    (read?_ofResponse _).2 (by decide)⟩

end ChartQuery.Response.Csv
