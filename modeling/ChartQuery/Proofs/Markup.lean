import ChartQuery.Response.Html
import Mathlib.Tactic.Common

/-!
# Markup of a page

A reader of a page finds tags between angle brackets, and texts between the tags.  The tags of a
page depend on how many failures it reports, or on the numbers of columns and cells of its table,
but on no text: no text that a response or a title brings along is read as a tag, or as a part of
one.  And the texts themselves are found again in the elements of the page, once the names of the
escaped characters are replaced by the characters.

A page is printed from a list of pieces.  `outline` says what is read of a list of pieces, so that
the claims about the text of a page become claims about its pieces.
-/

namespace ChartQuery

/-- The number of columns of a table, and the number of cells in each row. -/
def Table.dimensions (t : Table) : Nat × List Nat := (t.columns.length, t.rows.map List.length)

namespace Response.Html

/-! ## Reading -/

/-- What stands outside of tags and inside of them, in turn. -/
def spans : Bool → List Char → List (List Char)
  | _, [] => [[]]
  | inside, c :: cs =>
    if c = (if inside then '>' else '<') then [] :: spans (!inside) cs
    else
      match spans inside cs with
      | [] => [[c]]
      | s :: ss => (c :: s) :: ss

/-- A tag, given by what stands between its angle brackets, and the text that follows up to the next
tag. -/
structure Mark where
  tag : String
  text : String

/-- The name that a tag begins with. -/
def Mark.name (m : Mark) : String := String.ofList (m.tag.toList.takeWhile (· != ' '))

/-- The tags, with the texts that follow, if the first span stands inside of a tag. -/
def marks : List (List Char) → List Mark
  | tag :: text :: ss => ⟨String.ofList tag, String.ofList text⟩ :: marks ss
  | _ => []

/-- The tags of a page with the texts that follow. -/
def read (s : String) : List Mark := marks (spans false s.toList).tail

/-- The tags of a page. -/
def tags (s : String) : List String := (read s).map Mark.tag

/-- The elements whose texts a response brings along. -/
def textElements : List String := ["title", "td", "h1"]

/-- The texts of these elements, each up to the tag that ends the element; `current?` is the element
that a reader stands in, with what it has read of its text. -/
def contents : Option (String × String) → List Mark → List String
  | _, [] => []
  | none, m :: ms =>
    if m.name ∈ textElements then contents (some (m.name, m.text)) ms else contents none ms
  | some (name, text), m :: ms =>
    if m.name = "/" ++ name then text :: contents none ms
    else contents (some (name, text ++ m.text)) ms

/-- The characters that are meant by the text of an element. -/
def unescape : List Char → List Char
  | '&' :: 'a' :: 'm' :: 'p' :: ';' :: cs => '&' :: unescape cs
  | '&' :: 'l' :: 't' :: ';' :: cs => '<' :: unescape cs
  | '&' :: 'g' :: 't' :: ';' :: cs => '>' :: unescape cs
  | c :: cs => c :: unescape cs
  | [] => []

/-- What is said in the elements of a page that texts are put into. -/
def texts (s : String) : List String :=
  (contents none (read s)).map fun t => String.ofList (unescape t.toList)

/-! ## Pieces -/

variable {cs : List Char} {ps : List Piece}

/-- A span ends at its bracket. -/
lemma spans_append (inside : Bool) (h : (if inside then '>' else '<') ∉ cs) (ds : List Char) :
    spans inside (cs ++ (if inside then '>' else '<') :: ds) = cs :: spans (!inside) ds := by
  induction cs with
  | nil => rw [List.nil_append, spans, if_pos rfl]
  | cons c cs ih =>
    rw [List.mem_cons, not_or] at h
    obtain ⟨hne, hrest⟩ := h
    rw [List.cons_append, spans, if_neg (Ne.symm hne), ih hrest]

/-- Text without brackets stands in front of the first span. -/
lemma spans_text (h : '<' ∉ cs) {ds s : List Char} {ss : List (List Char)}
    (hds : spans false ds = s :: ss) : spans false (cs ++ ds) = (cs ++ s) :: ss := by
  induction cs with
  | nil => exact hds
  | cons c cs ih =>
    rw [List.mem_cons, not_or] at h
    obtain ⟨hne, hrest⟩ := h
    rw [List.cons_append, spans, ih hrest, if_neg (by simpa using Ne.symm hne), List.cons_append]

/-- What is read of a page: the text in front of its first tag, and the tags with the texts that
follow. -/
def outline : List Piece → String × List Mark
  | [] => ("", [])
  | .tag inside :: ps => ("", ⟨inside, (outline ps).1⟩ :: (outline ps).2)
  | .newline :: ps => (Piece.newline.print ++ (outline ps).1, (outline ps).2)
  | .text s :: ps => ((Piece.text s).print ++ (outline ps).1, (outline ps).2)

/-- What stands between the brackets of a tag. -/
def Piece.inside? : Piece → Option String
  | .tag inside => some inside
  | _ => none

/-- The tags among pieces. -/
def tagsOf (ps : List Piece) : List String := ps.filterMap Piece.inside?

@[simp] lemma tagsOf_nil : tagsOf [] = [] := rfl

@[simp] lemma tagsOf_tag (inside : String) (ps : List Piece) :
    tagsOf (.tag inside :: ps) = inside :: tagsOf ps := rfl

@[simp] lemma tagsOf_newline (ps : List Piece) : tagsOf (.newline :: ps) = tagsOf ps := rfl

@[simp] lemma tagsOf_text (s : String) (ps : List Piece) :
    tagsOf (.text s :: ps) = tagsOf ps := rfl

/-- Whether no tag among pieces has a bracket in it. -/
def Proper (ps : List Piece) : Prop := ∀ inside ∈ tagsOf ps, '>' ∉ inside.toList

/-- No bracket is left in an escaped character. -/
lemma bracket_notMem_escape (c : Char) : '<' ∉ escape c := by
  unfold escape
  split
  · decide
  split
  · decide
  split
  · decide
  · next hlt _ => simpa using Ne.symm hlt

/-- No bracket is left in an escaped text. -/
lemma bracket_notMem_text (s : String) : '<' ∉ (Piece.text s).print.toList := by
  rw [Piece.print, Text.replaceEach, String.toList_ofList, List.mem_flatMap]
  rintro ⟨c, -, hmem⟩
  exact bracket_notMem_escape c hmem

/-- The spans of a page. -/
lemma spans_print (hps : Proper ps) :
    spans false (print ps).toList =
      (outline ps).1.toList :: (outline ps).2.flatMap fun m => [m.tag.toList, m.text.toList] := by
  induction ps with
  | nil => rfl
  | cons p ps ih =>
    have hcons : (print (p :: ps)).toList = p.print.toList ++ (print ps).toList := by
      simp [print]
    rw [hcons]
    cases p with
    | tag inside =>
      obtain ⟨hinside, hps⟩ := List.forall_mem_cons.1 hps
      have htag : (Piece.tag inside).print.toList ++ (print ps).toList =
          '<' :: (inside.toList ++ '>' :: (print ps).toList) := by
        simp [Piece.print]
      rw [htag]
      calc spans false ('<' :: (inside.toList ++ '>' :: (print ps).toList))
          = [] :: spans true (inside.toList ++ '>' :: (print ps).toList) :=
            spans_append false List.not_mem_nil _
        _ = [] :: inside.toList :: spans false (print ps).toList :=
            congrArg ([] :: ·) (spans_append true hinside _)
        _ = [] :: inside.toList :: (outline ps).1.toList ::
              (outline ps).2.flatMap fun m => [m.tag.toList, m.text.toList] := by rw [ih hps]
    | newline => exact (spans_text (by decide) (ih hps)).trans (by simp [outline])
    | text s => exact (spans_text (bracket_notMem_text s) (ih hps)).trans (by simp [outline])

/-- What is read of a page are its tags and the texts between them. -/
lemma read_print (hps : Proper ps) :
    read (print ps) = (outline ps).2 := by
  have hmarks : ∀ ms : List Mark,
      marks (ms.flatMap fun m => [m.tag.toList, m.text.toList]) = ms := fun ms => by
    induction ms with
    | nil => rfl
    | cons m ms ih => simp [marks, ih]
  rw [read, spans_print hps, List.tail_cons, hmarks]

/-- The tags that are read are the tags among the pieces. -/
lemma map_tag_outline (ps : List Piece) : (outline ps).2.map Mark.tag = tagsOf ps := by
  induction ps with
  | nil => rfl
  | cons p ps ih =>
    cases p with
    | tag inside => exact congrArg (inside :: ·) ih
    | newline | text s => exact ih

/-! ## Tags of pages -/

/-- The tags of pieces one after another. -/
lemma tagsOf_append (ps qs : List Piece) : tagsOf (ps ++ qs) = tagsOf ps ++ tagsOf qs :=
  List.filterMap_append

/-- Pieces with the same tags for each element of a list. -/
lemma tagsOf_flatMap {α : Type} {f : α → List Piece} {ts : List String}
    (hf : ∀ a, tagsOf (f a) = ts) (as : List α) :
    tagsOf (as.flatMap f) = (List.replicate as.length ts).flatten := by
  induction as with
  | nil => rfl
  | cons a as ih =>
    rw [List.flatMap_cons, tagsOf_append, hf, ih, List.length_cons, List.replicate_succ,
      List.flatten_cons]

/-- A cell of the table. -/
def cell (s : String) : List Piece := [.tag "td", .text s, .tag "/td"]

/-- The tags of a cell. -/
lemma tagsOf_cell (s : String) : tagsOf (cell s) = ["td", "/td"] := rfl

/-- The tags of the heading of a failure. -/
lemma tagsOf_heading (e : Entry) :
    tagsOf (heading e) = ["h1 color='#f00'", "/h1", "/body"] := rfl

/-- The tag that a row begins with. -/
def rowTag (style : String) : String := "tr style=\x22" ++ style ++ "\x22"

/-- A row is made of cells. -/
lemma row_eq (style : String) (ss : List String) : row style ss =
    .tag (rowTag style) :: .newline :: (ss.flatMap cell ++ [.newline, .tag "/tr", .newline]) := rfl

/-- The tags of a row are those of the row and of its cells. -/
lemma tagsOf_row (style : String) (ss : List String) : tagsOf (row style ss) =
    rowTag style :: ((List.replicate ss.length ["td", "/td"]).flatten ++ ["/tr"]) := by
  rw [← tagsOf_flatMap tagsOf_cell, row_eq]
  exact congrArg (rowTag style :: ·) (tagsOf_append _ _)

/-- The tags of rows depend on the numbers of their cells only. -/
lemma tagsOf_rowsFrom_congr {sss sss' : List (List String)}
    (h : sss.map List.length = sss'.map List.length) (i : Nat) :
    tagsOf (rowsFrom i sss) = tagsOf (rowsFrom i sss') := by
  induction sss generalizing sss' i with
  | nil => rw [List.map_eq_nil_iff.1 h.symm]
  | cons ss sss ih =>
    cases sss' with
    | nil => cases h
    | cons ss' sss' =>
      obtain ⟨hlength, hrest⟩ := List.cons.inj h
      rw [rowsFrom, rowsFrom, tagsOf_append, tagsOf_append, tagsOf_row, tagsOf_row, hlength,
        ih hrest]

/-- The tags of the table depend on the numbers of its titles and cells only. -/
lemma tagsOf_grid_congr {ss ss' : List String} {sss sss' : List (List String)}
    (hlength : ss.length = ss'.length) (hrows : sss.map List.length = sss'.map List.length) :
    tagsOf (grid ss sss) = tagsOf (grid ss' sss') := by
  simp only [grid, tagsOf_append, tagsOf_row, hlength, tagsOf_rowsFrom_congr hrows]

/-- The number of titles and the numbers of texts of a table are its dimensions. -/
lemma dimensions_eq (t : Table) :
    t.dimensions = (t.titles.length, t.texts.map List.length) := by
  simp [Table.dimensions, Table.titles, Table.texts, Function.comp_def]

/-- The tags of what follows on the head of a page. -/
lemma tagsOf_body_congr {r r' : Response} (herrors : r.errors.length = r'.errors.length)
    (htable : r.errors = [] → r.table?.map Table.dimensions = r'.table?.map Table.dimensions) :
    tagsOf (body r) = tagsOf (body r') := by
  by_cases hnil : r.errors = []
  · have hnil' : r'.errors = [] := List.length_eq_zero_iff.1 (by rw [← herrors, hnil]; rfl)
    have htable := htable hnil
    rw [body, body, hnil, hnil']
    cases ht : r.table? with
    | none =>
      cases ht' : r'.table? with
      | none => rfl
      | some t' => simp [ht, ht'] at htable
    | some t =>
      cases ht' : r'.table? with
      | none => simp [ht, ht'] at htable
      | some t' =>
        rw [ht, ht', Option.map_some, Option.map_some, Option.some.injEq, dimensions_eq,
          dimensions_eq, Prod.mk.injEq] at htable
        exact tagsOf_grid_congr htable.1 htable.2
  · have hnil' : r'.errors ≠ [] := fun h =>
      hnil (List.length_eq_zero_iff.1 (by rw [herrors, h]; rfl))
    rw [body, body, if_neg (by simpa using hnil), if_neg (by simpa using hnil'),
      tagsOf_flatMap tagsOf_heading, tagsOf_flatMap tagsOf_heading, herrors]

/-- Pieces one after another. -/
lemma Proper.append {ps qs : List Piece} (hps : Proper ps) (hqs : Proper qs) :
    Proper (ps ++ qs) := by
  rw [Proper, tagsOf_append, List.forall_mem_append]
  exact ⟨hps, hqs⟩

/-- Pieces for each element of a list. -/
lemma Proper.flatMap {α : Type} {f : α → List Piece} (hf : ∀ a, Proper (f a)) (as : List α) :
    Proper (as.flatMap f) := by
  induction as with
  | nil => exact nofun
  | cons a as ih => exact (hf a).append ih

/-- No tag of a row has a bracket in it, if its style has none. -/
lemma proper_row {style : String} (hstyle : '>' ∉ style.toList) (ss : List String) :
    Proper (row style ss) := by
  have hcell : ∀ s, Proper (cell s) := fun s => by
    simp [Proper, tagsOf_cell]
  refine List.forall_mem_cons.2 ⟨by simpa [rowTag] using hstyle, ?_⟩
  exact (Proper.flatMap hcell ss).append (by simp [Proper])

/-- No tag of the table has a bracket in it. -/
lemma proper_grid (ss : List String) (sss : List (List String)) : Proper (grid ss sss) := by
  have hrows : ∀ i, Proper (rowsFrom i sss) := by
    induction sss with
    | nil => exact fun i => nofun
    | cons ss sss ih =>
      refine fun i => (proper_row ?_ ss).append (ih (i + 1))
      unfold rowStyle
      split <;> simp
  have hstart : Proper [.tag "table border=\x221\x22 cellpadding=\x222\x22 cellspacing=\x220\x22",
      .newline] := by
    simp [Proper]
  have hend : Proper [.tag "/table", .newline, .tag "/body", .newline, .tag "/html",
      .newline] := by
    simp [Proper]
  exact ((hstart.append (proper_row (by simp [titleStyle]) ss)).append (hrows 0)).append hend

/-- No tag of a page has a bracket in it. -/
lemma proper_page (r : Response) (title : String) : Proper (page r title) := by
  have hhead : Proper (head title) := by
    simp [Proper, head]
  have hheading : ∀ e, Proper (heading e) := fun e => by
    simp [Proper, tagsOf_heading]
  refine hhead.append ?_
  unfold body
  split
  · split <;> exact proper_grid _ _
  · exact Proper.flatMap hheading _

/-! ## Texts of pages -/

/-- What the elements of a page are read to hold. -/
def contentsOf (ps : List Piece) : List String := contents none (outline ps).2

/-- An element that holds a text. -/
lemma contentsOf_element {start stop : String} (name : String)
    (hstart : (Mark.mk start "").name = name) (hstop : (Mark.mk stop "").name = "/" ++ name)
    (hname : name ∈ textElements) (s : String) (ps : List Piece) :
    contentsOf (.tag start :: .text s :: .tag stop :: ps) =
      (Piece.text s).print :: contentsOf ps := by
  have hstart' : ∀ t, (Mark.mk start t).name = name := fun t => hstart
  have hstop' : ∀ t, (Mark.mk stop t).name = "/" ++ name := fun t => hstop
  simp only [contentsOf, outline, contents, hstart', hstop', if_pos hname, if_true,
    String.append_empty]

/-- Pieces with no tag that begins such an element. -/
lemma contentsOf_append {ps : List Piece}
    (h : ∀ inside ∈ tagsOf ps, (Mark.mk inside "").name ∉ textElements) (qs : List Piece) :
    contentsOf (ps ++ qs) = contentsOf qs := by
  induction ps with
  | nil => rfl
  | cons p ps ih =>
    cases p with
    | tag inside =>
      obtain ⟨hinside, hps⟩ := List.forall_mem_cons.1 h
      exact (if_neg hinside).trans (ih hps)
    | newline | text s => exact ih h

/-- The texts of the cells of a row. -/
lemma contentsOf_row (style : String) (ss : List String) (ps : List Piece) :
    contentsOf (row style ss ++ ps) = (ss.map fun s => (Piece.text s).print) ++ contentsOf ps := by
  have hcells : ∀ qs, contentsOf (ss.flatMap cell ++ qs) =
      (ss.map fun s => (Piece.text s).print) ++ contentsOf qs := fun qs => by
    induction ss with
    | nil => rfl
    | cons s ss ih =>
      rw [List.flatMap_cons, List.append_assoc, List.map_cons, List.cons_append, ← ih]
      exact contentsOf_element "td" (by simp [Mark.name]) (by simp [Mark.name]) (by decide) s _
  have hname : (Mark.mk (rowTag style) "").name = "tr" := by
    simp [Mark.name, rowTag]
  have hstart : ∀ qs, contentsOf ([.tag (rowTag style), .newline] ++ qs) = contentsOf qs :=
    contentsOf_append (List.forall_mem_singleton.2 (by rw [hname]; decide))
  have hend : contentsOf ([.newline, .tag "/tr", .newline] ++ ps) = contentsOf ps :=
    contentsOf_append (by simp [Mark.name, textElements]) ps
  rw [row_eq, ← hend, ← hcells, ← List.append_assoc]
  exact hstart _

/-- The texts of rows. -/
lemma contentsOf_rowsFrom (i : Nat) (sss : List (List String)) (ps : List Piece) :
    contentsOf (rowsFrom i sss ++ ps) =
      (sss.flatten.map fun s => (Piece.text s).print) ++ contentsOf ps := by
  induction sss generalizing i with
  | nil => rfl
  | cons ss sss ih =>
    rw [rowsFrom, List.append_assoc, contentsOf_row, ih, List.flatten_cons, List.map_append,
      List.append_assoc]

/-- The texts of the table. -/
lemma contentsOf_grid (ss : List String) (sss : List (List String)) :
    contentsOf (grid ss sss) = (ss ++ sss.flatten).map fun s => (Piece.text s).print := by
  have hend : contentsOf [.tag "/table", .newline, .tag "/body", .newline, .tag "/html",
      .newline] = [] := by
    simp [contentsOf, outline, contents, Mark.name, textElements]
  rw [grid, List.append_assoc, List.append_assoc,
    contentsOf_append (by simp [Mark.name, textElements]), contentsOf_row, contentsOf_rowsFrom,
    hend, List.append_nil, List.map_append]

/-- The texts of the headings of failures. -/
lemma contentsOf_flatMap_heading (es : List Entry) : contentsOf (es.flatMap heading) =
    es.map fun e => (Piece.text (e.reason.text ++ ": " ++ e.message)).print := by
  induction es with
  | nil => rfl
  | cons e es ih =>
    have hend : contentsOf ([.tag "/body", .newline] ++ es.flatMap heading) =
        contentsOf (es.flatMap heading) := contentsOf_append (by simp [Mark.name, textElements]) _
    rw [List.flatMap_cons, List.map_cons, ← ih, ← hend]
    exact contentsOf_element "h1" (by simp [Mark.name]) (by simp [Mark.name]) (by decide) _ _

/-- The texts that a response brings along: those of its failures if there are any, else the titles
of its table and the texts of the cells, row by row. -/
def shownTexts (r : Response) : List String :=
  if r.errors = [] then
    match r.table? with
    | some t => t.columns.map Column.title ++ t.rows.flatMap fun cells => cells.map Cell.text
    | none => []
  else r.errors.map fun e => e.reason.text ++ ": " ++ e.message

/-- The texts of what follows on the head of a page. -/
lemma contentsOf_body (r : Response) :
    contentsOf (body r) = (shownTexts r).map fun s => (Piece.text s).print := by
  unfold body shownTexts
  by_cases hnil : r.errors = []
  · rw [if_pos (by simpa using hnil), if_pos hnil]
    cases r.table? with
    | none => exact contentsOf_grid [] []
    | some t => exact contentsOf_grid t.titles t.texts
  · rw [if_neg (by simpa using hnil), if_neg hnil, contentsOf_flatMap_heading, List.map_map]
    rfl

/-- The texts of a page. -/
lemma contentsOf_page (r : Response) (title : String) :
    contentsOf (page r title) = (title :: shownTexts r).map fun s => (Piece.text s).print := by
  have hhead : contentsOf (head title ++ body r) =
      (Piece.text title).print :: contentsOf (body r) := by
    have hsplit : head title ++ body r = (head "").take 8 ++
        (.tag "title" :: .text title :: .tag "/title" :: ((head "").drop 11 ++ body r)) := rfl
    rw [hsplit, contentsOf_append (by simp [head, Mark.name, textElements]),
      contentsOf_element "title" (by simp [Mark.name]) (by simp [Mark.name]) (by decide),
      contentsOf_append (by simp [head, Mark.name, textElements])]
  rw [page, hhead, contentsOf_body, List.map_cons]

/-- A character that is not escaped stands for itself. -/
lemma unescape_cons {c : Char} (hc : c ≠ '&') (cs : List Char) :
    unescape (c :: cs) = c :: unescape cs := by
  rw [unescape] <;> rintro _ rfl <;> exact absurd rfl hc

/-- Unescaping gives back what was escaped. -/
lemma unescape_flatMap_escape (cs : List Char) : unescape (cs.flatMap escape) = cs := by
  induction cs with
  | nil => rfl
  | cons c cs ih =>
    rw [List.flatMap_cons, escape]
    split
    · next hc => rw [hc]; exact congrArg ('&' :: ·) ih
    split
    · next hc => rw [hc]; exact congrArg ('<' :: ·) ih
    split
    · next hc => rw [hc]; exact congrArg ('>' :: ·) ih
    · next hc _ _ => rw [List.singleton_append, unescape_cons hc, ih]

/-- **No text becomes markup, and every text is found again.**  The pages of two responses with
failures as many in one as in the other, or else with tables of the same dimensions or without
tables, have the same tags.  In the elements for the title of the page, for the cells and for the
failures the page says, in order, the title and the texts of the response. -/
theorem tags_eq_and_texts_eq {r r' : Response} (herrors : r.errors.length = r'.errors.length)
    (htable : r.errors = [] → r.table?.map Table.dimensions = r'.table?.map Table.dimensions)
    (title title' : String) :
    tags (ofResponse r title) = tags (ofResponse r' title') ∧
      texts (ofResponse r title) = title :: shownTexts r := by
  constructor
  · rw [ofResponse, ofResponse, tags, tags, read_print (proper_page r title),
      read_print (proper_page r' title'), map_tag_outline, map_tag_outline, page, page,
      tagsOf_append, tagsOf_append, tagsOf_body_congr herrors htable]
    rfl
  · have hunescape : ∀ s, String.ofList (unescape (Piece.text s).print.toList) = s := fun s => by
      rw [Piece.print, Text.replaceEach, String.toList_ofList, unescape_flatMap_escape,
        String.ofList_toList]
    have hcontents : contents none (read (ofResponse r title)) = contentsOf (page r title) := by
      rw [ofResponse, read_print (proper_page r title), contentsOf]
    rw [texts, hcontents, contentsOf_page, List.map_map]
    exact (List.map_congr_left fun s _ => hunescape s).trans (List.map_id _)

/-- A cell with tags in it, and one that looks escaped, on a page whose title would end its element:
the page has the tags of a page with other texts in the same places. -/
theorem tags_eq_and_texts_eq_script :
    let r : Response := .ok ⟨[⟨"a", "", .string, "", none⟩],
      [[⟨some (.string "</td><script>"), none⟩, ⟨some (.string "&lt;"), none⟩]]⟩
    let r' : Response := .ok ⟨[⟨"b", "", .string, "", none⟩], [[Cell.null, Cell.null]]⟩
    tags (ofResponse r "</title>") = tags (ofResponse r' "emp") ∧
      texts (ofResponse r "</title>") = ["</title>", "a", "</td><script>", "&lt;"] := by
  intro r r'
  obtain ⟨htags, htexts⟩ := @tags_eq_and_texts_eq r r' rfl (fun _ => rfl) "</title>" "emp"
  exact ⟨htags, htexts.trans (by decide +kernel)⟩

end Response.Html

end ChartQuery
