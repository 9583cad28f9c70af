import ChartQuery.Proofs.Numerals
import ChartQuery.Proofs.PrintedExpr
import ChartQuery.Proofs.WritableClauses

/-!
# Printed clauses are statements

If the expressions, names and texts that clauses hold are writable, the tokens of the text of the
clauses are a statement of the grammar, and it holds the same clauses with the unsigned forms of
all expressions.
-/

namespace ChartQuery.Grammar

open Query (Clauses printClause printCount commaSeparated printSortKey printEntry printSelected
  unsignedKey unsignedEntry)
open Token (Writes Single Breaks Spells Nameable Quotable Numeric keyword? IsWordText)

/-! ## Lists in clauses -/

section Lists

variable {α β : Type} {item : List Token → β → List Token → Prop}
  {rule : List Token → List β → List Token → Prop} {start : List Token → List Token → Prop}
  {keyword : String} {f : α → String} {g : α → β} {xs : List α} {r : List Char}

/-- A clause whose body is a list is absent if there are no items, else it is its keyword, read by
`start`, and the items. -/
lemma writes_printClause (hstart : ∀ r, Writes keyword start (" ".toList ++ r))
    (habsent : ∀ ts, rule ts [] ts)
    (hpresent : ∀ {ts vs us as}, start ts vs → Separated item vs as us → rule ts as us)
    (h : ∀ x ∈ xs, ∀ r, Breaks r → Writes (f x) (fun ts us => item ts (g x) us) r)
    (hr : Breaks r) :
    Writes (printClause keyword (xs.map f)) (fun ts us => rule ts (xs.map g) us) r := by
  unfold printClause
  by_cases hxs : xs = []
  · subst hxs
    refine Token.writes_empty.mono ?_
    rintro ts us rfl
    exact habsent ts
  · rw [if_neg (by simpa using hxs)]
    have hitems := writes_separated hxs h hr
    refine Writes.mono (((hstart _).blank_append.append_blank).append hitems) ?_
    rintro ts us ⟨vs, hts, hvs⟩
    exact hpresent hts hvs

/-- A reserved word, in any mixture of cases, before a blank. -/
lemma writes_start {kind : Token.Kind} {lower : String} (hs : IsWordText keyword)
    (hlower : keyword.toList.map Char.toLower = lower.toList) (hkind : keyword? lower = some kind)
    (r : List Char) : Writes keyword (Single kind lower) (" ".toList ++ r) :=
  Token.writes_reserved hs (Token.toLower_eq hlower) hkind (breaks_blank r)

/-- A reserved word and the word `by` before a blank. -/
lemma writes_startBy {kind : Token.Kind} {lower : String} (hs : IsWordText keyword)
    (hlower : keyword.toList.map Char.toLower = lower.toList) (hkind : keyword? lower = some kind)
    (r : List Char) : Writes (keyword ++ " BY")
      (Relation.Comp (Single kind lower) (Single .kwBy "by")) (" ".toList ++ r) := by
  have hby : Writes "BY" (Single .kwBy "by") (" ".toList ++ r) :=
    writes_start (by decide) rfl rfl r
  have hword : Writes keyword (Single kind lower) (" BY".toList ++ (" ".toList ++ r)) :=
    writes_start hs hlower hkind _
  exact hword.append hby.blank_append

end Lists

/-! ## Items of clauses -/

section Items

variable {r : List Char}

/-- The text of a writable expression is an expression. -/
lemma writes_toText {e : Expr} (h : e.Writable) (hr : Breaks r) :
    Writes e.toText (fun ts us => Derives .sum ts e.unsigned us) r :=
  h.prints.1.of_value .sum r hr

/-- A quoted name is the name of a column. -/
lemma writes_columnName {name : String} (h : Nameable name) (hr : Breaks r) :
    Writes (quoteName name) (fun ts us => ColumnName ts name us) r := by
  refine (Token.writes_quoteName h hr).mono ?_
  rintro ts us ⟨p, rfl⟩
  exact @ColumnName.mk ⟨p, .identifier, name⟩ us rfl

/-- A printed sort key is a sort key. -/
lemma writes_sortKey {k : ChartQuery.SortKey} (h : k.expr.Writable) (hr : Breaks r) :
    Writes (printSortKey k) (fun ts us => SortKey ts (unsignedKey k) us) r := by
  obtain ⟨e, descending⟩ := k
  cases descending with
  | false => exact (writes_toText h hr).mono fun _ _ hder => .unmarked hder
  | true =>
    have hdesc : Writes " DESC" (Single .kwDesc "desc") r := by
      have hword : Writes "DESC" (Single .kwDesc "desc") r :=
        Token.writes_reserved (by decide) (Token.toLower_eq rfl) rfl hr
      exact hword.blank_append
    refine Writes.mono ((writes_toText h (breaks_blank _)).append hdesc) ?_
    rintro ts us ⟨vs, hder, ⟨p, rfl⟩⟩
    exact .descending hder rfl

/-- A printed entry of an attaching clause is an entry. -/
lemma writes_entry {x : Expr × String} (h : x.1.Writable ∧ Quotable x.2) :
    Writes (printEntry x) (fun ts us => Entry ts (unsignedEntry x) us) r := by
  obtain ⟨e, text⟩ := x
  have hexpr := writes_toText h.1 (breaks_blank ((quoteString text).toList ++ r))
  refine Writes.mono ((hexpr.append_blank).append (Token.writes_quoteString h.2)) ?_
  rintro ts us ⟨vs, hder, ⟨p, rfl⟩⟩
  exact @Entry.mk _ _ us ⟨p, .string, text⟩ hder rfl

/-- A printed option is an option. -/
lemma writes_flag (f : Query.Flag) (hr : Breaks r) :
    Writes f.word (fun ts us => Flag ts f us) r := by
  cases f with
  | noFormat =>
    have hword : Writes "no_format" (Spells "no_format") r :=
      Token.writes_spelled (by decide) rfl rfl hr
    refine hword.mono ?_
    rintro ts us ⟨t, rfl, ht⟩
    exact .noFormat ht
  | noValues =>
    have hword : Writes "no_values" (Spells "no_values") r :=
      Token.writes_spelled (by decide) rfl rfl hr
    refine hword.mono ?_
    rintro ts us ⟨t, rfl, ht⟩
    exact .noValues ht

/-- The decimal digits of a number stand for the number. -/
lemma decimalValue_toString (n : Nat) : decimalValue (toString n).toList = n := by
  rw [← foldl_digits, toList_toString]
  exact Nat.ofDigitChars_ten_toDigits

/-- The decimal digits of a number are a number of rows. -/
lemma writes_count {n : Nat} (h : n < 2 ^ 64) (hr : Breaks r) :
    Writes (toString n) (fun ts us => Count ts n us) r := by
  have hall : ∀ c ∈ (toString n).toList, c.isDigit = true := fun _ hc =>
    isDigit_of_mem_toString hc
  have hne : (toString n).toList ≠ [] := toList_toString_ne_nil n
  have hnumeric : Numeric (toString n) :=
    ⟨hne, fun c hc => by simp [Token.isNumberChar, hall c hc]⟩
  refine (Token.writes_number hnumeric hr).mono ?_
  rintro ts us ⟨p, rfl⟩
  have hcount := @Count.mk ⟨p, .number, toString n⟩ us rfl hne hall
    (by rwa [decimalValue_toString])
  rwa [decimalValue_toString] at hcount

end Items

/-! ## Clauses -/

section Clauses

variable {r : List Char}

/-- What is selected is written as the first clause. -/
lemma writes_selected {selected? : Option (List Expr)}
    (h : ∀ es, selected? = some es → es ≠ [] ∧ ∀ e ∈ es, e.Writable) (hr : Breaks r) :
    Writes (printSelected selected?)
      (fun ts us => Clause .kwSelect none SelectList ts (selected?.map (·.map Expr.unsigned)) us)
      r := by
  have hselect (r : List Char) : Writes "SELECT " (Single .kwSelect "select") r := by
    have hword : Writes "SELECT" (Single .kwSelect "select") (" ".toList ++ r) :=
      writes_start (by decide) rfl rfl r
    exact hword.append_blank
  cases selected? with
  | none =>
    have hstar : Writes "*" (Single .times "*") r :=
      Token.writes_sign rfl (by decide) rfl fun hgrows => absurd hgrows (by decide)
    refine Writes.mono ((hselect _).append hstar) ?_
    rintro ts us ⟨vs, ⟨p, rfl⟩, ⟨p', rfl⟩⟩
    exact .present rfl (.star rfl)
  | some es =>
    obtain ⟨hne, hall⟩ := h es rfl
    have hlist := writes_separated hne (fun e he r hr => writes_toText (hall e he) hr) hr
    refine Writes.mono ((hselect _).append hlist) ?_
    rintro ts us ⟨vs, ⟨p, rfl⟩, hsep⟩
    exact .present rfl (.list hsep)

/-- The filter is written as a clause. -/
lemma writes_filter {filter? : Option Expr} (h : ∀ e, filter? = some e → e.Writable)
    (hr : Breaks r) :
    Writes (printClause "WHERE" (filter?.toList.map Expr.toText))
      (fun ts us => Clause .kwWhere none Condition ts (filter?.map Expr.unsigned) us) r := by
  cases filter? with
  | none =>
    refine Token.writes_empty.mono ?_
    rintro ts us rfl
    exact .absent
  | some e =>
    have hwhere : Writes " WHERE " (Single .kwWhere "where") (e.toText.toList ++ r) := by
      have hword : Writes "WHERE" (Single .kwWhere "where")
          (" ".toList ++ (e.toText.toList ++ r)) := writes_start (by decide) rfl rfl _
      exact hword.blank_append.append_blank
    have htext : printClause "WHERE" ((some e).toList.map Expr.toText) = " WHERE " ++ e.toText := by
      simp [printClause, commaSeparated]
    rw [htext]
    refine Writes.mono (hwhere.append (writes_toText (h e rfl) hr)) ?_
    rintro ts us ⟨vs, ⟨p, rfl⟩, hder⟩
    exact .present rfl (.mk hder)

/-- A number of rows is written as a clause, unless it is zero. -/
lemma writes_printCount {keyword lower : String} {kind : Token.Kind} {n : Nat}
    (hs : IsWordText keyword) (hlower : keyword.toList.map Char.toLower = lower.toList)
    (hkind : keyword? lower = some kind) (hn : n < 2 ^ 64) (hr : Breaks r) :
    Writes (printCount keyword n) (fun ts us => Clause kind 0 Count ts n us) r := by
  unfold printCount
  split
  · next hzero =>
    subst hzero
    refine Token.writes_empty.mono ?_
    rintro ts us rfl
    exact .absent
  · have hstart := writes_start hs hlower hkind ((toString n).toList ++ r)
    refine Writes.mono (hstart.blank_append.append_blank.append (writes_count hn hr)) ?_
    rintro ts us ⟨vs, ⟨p, rfl⟩, hcount⟩
    exact .present rfl hcount

/-- Columns to pivot by are written as a clause. -/
lemma writes_pivot {names : List String} (h : ∀ name ∈ names, Nameable name) (hr : Breaks r) :
    Writes (printClause "PIVOT" (names.map quoteName))
      (fun ts us => Clause .kwPivot [] (Separated ColumnName) ts names us) r := by
  have hstart := @writes_start "PIVOT" .kwPivot "pivot" (by decide) rfl rfl
  have hclause : Writes (printClause "PIVOT" (names.map quoteName))
      (fun ts us => Clause .kwPivot [] (Separated ColumnName) ts (names.map id) us) r := by
    refine writes_printClause hstart (fun _ => .absent) ?_
      (fun name hname r hr => writes_columnName (h name hname) hr) hr
    rintro ts vs us as ⟨p, rfl⟩ hsep
    exact .present rfl hsep
  rwa [List.map_id] at hclause

/-- Columns to group by are written as a clause. -/
lemma writes_groupBy {names : List String} (h : ∀ name ∈ names, Nameable name) (hr : Breaks r) :
    Writes (printClause "GROUP BY" (names.map quoteName))
      (fun ts us => Clause .kwGroup [] (AfterBy (Separated ColumnName)) ts names us) r := by
  have hstart := @writes_startBy "GROUP" .kwGroup "group" (by decide) rfl rfl
  have hclause : Writes (printClause "GROUP BY" (names.map quoteName))
      (fun ts us => Clause .kwGroup [] (AfterBy (Separated ColumnName)) ts (names.map id) us)
      r := by
    refine writes_printClause hstart (fun _ => .absent) ?_
      (fun name hname r hr => writes_columnName (h name hname) hr) hr
    rintro ts vs us as ⟨ws, ⟨p, rfl⟩, ⟨p', rfl⟩⟩ hsep
    exact .present rfl (.mk rfl hsep)
  rwa [List.map_id] at hclause

/-- Sort keys are written as a clause. -/
lemma writes_orderBy {keys : List ChartQuery.SortKey} (h : ∀ k ∈ keys, k.expr.Writable)
    (hr : Breaks r) :
    Writes (printClause "ORDER BY" (keys.map printSortKey))
      (fun ts us => Clause .kwOrder [] (AfterBy (Separated SortKey)) ts (keys.map unsignedKey) us)
      r := by
  have hstart := @writes_startBy "ORDER" .kwOrder "order" (by decide) rfl rfl
  refine writes_printClause hstart (fun _ => .absent) ?_
    (fun k hk r hr => writes_sortKey (h k hk) hr) hr
  rintro ts vs us as ⟨ws, ⟨p, rfl⟩, ⟨p', rfl⟩⟩ hsep
  exact .present rfl (.mk rfl hsep)

/-- Labels or formats are written as a clause. -/
lemma writes_entries {keyword lower : String} {kind : Token.Kind} {xs : List (Expr × String)}
    (hs : IsWordText keyword) (hlower : keyword.toList.map Char.toLower = lower.toList)
    (hkind : keyword? lower = some kind) (h : ∀ x ∈ xs, x.1.Writable ∧ Quotable x.2)
    (hr : Breaks r) :
    Writes (printClause keyword (xs.map printEntry))
      (fun ts us => Clause kind [] (Separated Entry) ts (xs.map unsignedEntry) us) r := by
  refine writes_printClause (writes_start hs hlower hkind) (fun _ => .absent) ?_
    (fun x hx _ _ => writes_entry (h x hx)) hr
  rintro ts vs us as ⟨p, rfl⟩ hsep
  exact .present rfl hsep

/-- Options are written as a clause. -/
lemma writes_options {flags : List Query.Flag} (hr : Breaks r) :
    Writes (printClause "OPTIONS" (flags.map Query.Flag.word))
      (fun ts us => Clause .kwOptions [] (Separated Flag) ts flags us) r := by
  have hstart := @writes_start "OPTIONS" .kwOptions "options" (by decide) rfl rfl
  have hclause : Writes (printClause "OPTIONS" (flags.map Query.Flag.word))
      (fun ts us => Clause .kwOptions [] (Separated Flag) ts (flags.map id) us) r := by
    refine writes_printClause hstart (fun _ => .absent) ?_ (fun f _ r hr => writes_flag f hr) hr
    rintro ts vs us as ⟨p, rfl⟩ hsep
    exact .present rfl hsep
  rwa [List.map_id] at hclause

/-- A clause, or nothing, ends a word. -/
lemma breaks_printClause (keyword : String) (items : List String) (hr : Breaks r) :
    Breaks ((printClause keyword items).toList ++ r) := by
  unfold printClause
  split
  · exact hr
  · simp only [String.toList_append, List.append_assoc]
    exact breaks_blank _

/-- A clause with a number of rows, or nothing, ends a word. -/
lemma breaks_printCount (keyword : String) (n : Nat) (hr : Breaks r) :
    Breaks ((printCount keyword n).toList ++ r) := by
  unfold printCount
  split
  · exact hr
  · simp only [String.toList_append, List.append_assoc]
    exact breaks_blank _

end Clauses

/-! ## Statements -/

/-- **Printed clauses are statements.**  The tokens of the text of writable clauses are a statement
that holds the clauses with the unsigned forms of all expressions. -/
theorem WritableClauses.statement {c : Clauses} (h : WritableClauses c) :
    Statement (Token.tokenize c.toText) c.unsigned := by
  have hnil : Breaks [] := fun d hd => nomatch hd
  have hflags := breaks_printClause "OPTIONS" (c.flags.map Query.Flag.word) hnil
  have hformats := breaks_printClause "FORMAT" (c.formats.map printEntry) hflags
  have hlabels := breaks_printClause "LABEL" (c.labels.map printEntry) hformats
  have hoffset := breaks_printCount "OFFSET" c.offset hlabels
  have hlimit := breaks_printCount "LIMIT" c.limit hoffset
  have horder := breaks_printClause "ORDER BY" (c.orderBy.map printSortKey) hlimit
  have hpivot := breaks_printClause "PIVOT" (c.pivot.map quoteName) horder
  have hgroup := breaks_printClause "GROUP BY" (c.groupBy.map quoteName) hpivot
  have hfilter := breaks_printClause "WHERE" (c.filter?.toList.map Expr.toText) hgroup
  have wlimit := @writes_printCount _ "LIMIT" "limit" .kwLimit _ (by decide) rfl rfl h.limit hoffset
  have woffset :=
    @writes_printCount _ "OFFSET" "offset" .kwOffset _ (by decide) rfl rfl h.offset hlabels
  have wlabels :=
    @writes_entries _ "LABEL" "label" .kwLabel _ (by decide) rfl rfl h.labels hformats
  have wformats :=
    @writes_entries _ "FORMAT" "format" .kwFormat _ (by decide) rfl rfl h.formats hflags
  have wselected := writes_selected h.selected hfilter
  have wfilter := wselected.append (writes_filter h.filter hgroup)
  have wpivot := (wfilter.append (writes_groupBy h.groupBy hpivot)).append
    (writes_pivot h.pivot horder)
  have wrows := ((wpivot.append (writes_orderBy h.orderBy hlimit)).append wlimit).append woffset
  have hwrites := ((wrows.append wlabels).append wformats).append (writes_options hnil)
  obtain ⟨m, ts, ⟨t₈, ⟨t₇, ⟨t₆, ⟨t₅, ⟨t₄, ⟨t₃, ⟨t₂, ⟨t₁, h₀, h₁⟩, h₂⟩, h₃⟩, h₄⟩, h₅⟩, h₆⟩, h₇⟩,
    h₈⟩, h₉⟩ := hwrites 0
  rw [Token.scanAll_nil] at h₉
  rw [List.append_nil] at h₀
  exact .mk h₀ h₁ h₂ h₃ h₄ h₅ h₆ h₇ h₈ h₉ rfl

end ChartQuery.Grammar
