import ChartQuery.Proofs.Depth
import ChartQuery.Proofs.Numerals
import ChartQuery.Proofs.Scanning
import ChartQuery.Proofs.Statement

/-!
# How the text of a statement is put together

The text of a statement is put together from plain texts, quoted names, string literals and
parentheses.  A property of texts, or a relation between two texts, that is kept when texts are put
together like this is a `TextCongruence`.  It is inherited by the texts of terms from those of their
parts, and by the texts of statements from those of their terms.
-/

namespace ChartQuery.Sql

/-! ## Fixed texts -/

/-- Whether a text is not empty and has neither quotes nor parentheses. -/
def Plain (s : String) : Prop :=
  s ≠ "" ∧ ∀ c ∈ s.toList, c ∉ ['\x27', '\x22', '\x60', '(', ')']

/-- Whether a text is plain and does not have the word FROM. -/
def Neutral (s : String) : Prop :=
  Plain s ∧ ∀ w ∈ wordsOutside 0 (joinWords (spelled s)), spellsFrom w = false

instance : DecidablePred Plain := fun s => @instDecidableAnd _ _ _ (List.decidableBAll _ s.toList)

instance : DecidablePred Neutral := fun _ => inferInstanceAs (Decidable (_ ∧ _))

/-- There are no quotes in a plain text. -/
lemma Plain.isQuote_eq_false {s : String} (h : Plain s) (d : Dialect) :
    ∀ c ∈ s.toList, d.isQuote c = false := by
  intro c hc
  have hc := h.2 c hc
  cases d <;> simp_all [Dialect.isQuote, Dialect.quoteChar]

/-- A plain text does not begin with a quote, whatever follows it. -/
lemma Plain.startsUnquoted {s : String} (h : Plain s) (d : Dialect) (t : String) :
    StartsUnquoted d (s ++ t) := by
  rw [StartsUnquoted, head?_toList_append h.1]
  exact fun c hc => h.isQuote_eq_false d c (List.mem_of_mem_head? hc)

/-- Letters, digits and underscores are no quotes. -/
lemma isQuote_eq_false_of_isNameChar {c : Char} (h : Token.isNameChar c = true) (d : Dialect) :
    d.isQuote c = false := by
  have hspecial := (Token.ne_of_isNameChar h).2
  cases d <;> simp_all [Dialect.isQuote, Dialect.quoteChar]

/-- A text of letters, digits and underscores leaves no span open. -/
lemma closed_of_isNameChar {d : Dialect} {s : String}
    (h : ∀ c ∈ s.toList, Token.isNameChar c = true) : Closed d s := by
  rw [Closed, pieces_unquoted fun c hc => isQuote_eq_false_of_isNameChar (h c hc) d]
  exact fun _ => isUnclosed_of_mem_spelled

/-- Characters of numbers are not the letter f, in either case. -/
lemma toLower_ne_of_isNumberChar {c : Char} (h : Token.isNumberChar c = true) :
    c.toLower ≠ 'f' := by
  simp only [Token.isNumberChar, Bool.or_eq_true, beq_iff_eq] at h
  rcases h with hdigit | rfl
  · have hupper : ¬ ('A'.val ≤ c.val ∧ c.val ≤ 'Z'.val) := by grind [Char.isDigit]
    have hlower : c.toLower = c := dif_neg hupper
    rw [hlower]
    rintro rfl
    exact absurd hdigit (by decide)
  · decide

/-- Numbers are neutral. -/
lemma neutral_of_numeric {s : String} (h : Token.Numeric s) : Neutral s := by
  have hspecial : ∀ c ∈ ['\x27', '\x22', '\x60', '(', ')'], Token.isNumberChar c = false := by
    simp only [List.forall_mem_cons]
    exact ⟨rfl, rfl, rfl, rfl, rfl, nofun⟩
  refine ⟨⟨fun hempty => h.1 (hempty ▸ rfl), fun c hc hmem => ?_⟩, fun w hw =>
    spellsFrom_eq_false (fun c hc => toLower_ne_of_isNumberChar (h.2 c hc)) hw⟩
  have hnumber := h.2 c hc
  rw [hspecial c hmem] at hnumber
  cases hnumber

/-- Numbers of rows are neutral. -/
lemma neutral_toString (n : Nat) : Neutral (toString n) := by
  refine neutral_of_numeric ⟨toList_toString_ne_nil n, fun c hc => ?_⟩
  simp [Token.isNumberChar, isDigit_of_mem_toString hc]

/-- The fixed texts of templates are neutral. -/
lemma neutral_of_mem_templateTexts : ∀ s ∈ templateTexts, Neutral s := by decide +kernel

/-! ## Ranges of rows -/

/-- The clauses that cut out a range of rows, with their keywords and numbers. -/
lemma exists_printRange (d : Dialect) (limit offset : Nat) : ∃ limits offsets : List Nat,
    Select.printRange d limit offset = Select.printClause "LIMIT " (limits.map toString) ++
      Select.printClause "OFFSET " (offsets.map toString) := by
  unfold Select.printRange
  split
  · split
    · split
      · exact ⟨[], [], rfl⟩
      · exact ⟨[limit], [], rfl⟩
    · exact ⟨[offset, if limit = 0 then Select.greatestLimit else limit], [], rfl⟩
  · split <;> split
    · exact ⟨[], [], rfl⟩
    · exact ⟨[], [offset], rfl⟩
    · exact ⟨[limit], [], rfl⟩
    · exact ⟨[limit], [offset], rfl⟩

/-! ## Congruences of texts -/

/-- A relation between texts that is kept when they are put together. -/
structure TextCongruence (d : Dialect) (T : String → String → Prop) : Prop where
  empty : T "" ""
  literal : ∀ s, T (quoteSqlString s) (quoteSqlString s)
  name : ∀ s, T (d.quoteName s) (d.quoteName s)
  before : ∀ {p s s'}, Plain p → T s s' → T (p ++ s) (p ++ s')
  append : ∀ {s s' t t'}, T s s' → T t t' → StartsUnquoted d t → StartsUnquoted d t' →
    T (s ++ t) (s' ++ t')
  parens : ∀ {s s'}, T s s' → T ("(" ++ s ++ ")") ("(" ++ s' ++ ")")

/-- A relation that texts have which were just put together from related texts.  It may say more
about what stands outside of parentheses. -/
structure TextCongruence.Outside (T T' : String → String → Prop) : Prop where
  weaken : ∀ {s s'}, T' s s' → T s s'
  neutral : ∀ {p}, Neutral p → T' p p
  literal : ∀ s, T' (quoteSqlString s) (quoteSqlString s)
  parens : ∀ {s s'}, T s s' → T' ("(" ++ s ++ ")") ("(" ++ s' ++ ")")
  append_parens : ∀ {f f' s s'}, T' f f' → T s s' →
    T' (f ++ "(" ++ s ++ ")") (f' ++ "(" ++ s' ++ ")")
  cast : ∀ {s s'}, T' s s' → T' (s ++ "::int") (s' ++ "::int")

/-- Two terms have related texts. -/
def Printed (d : Dialect) (T : String → String → Prop) (t t' : Term) : Prop :=
  T (t.print d) (t'.print d)

namespace TextCongruence

variable {d : Dialect} {T : String → String → Prop}

section Parts

variable (h : TextCongruence d T)
include h

/-- A plain text. -/
lemma plain {p : String} (hp : Plain p) : T p p := by
  have := h.before hp h.empty
  rwa [String.append_empty] at this

/-- Texts with a plain text between them. -/
lemma between {p s s' t t' : String} (hs : T s s') (hp : Plain p) (ht : T t t') :
    T (s ++ p ++ t) (s' ++ p ++ t') := by
  rw [String.append_assoc, String.append_assoc]
  exact h.append hs (h.before hp ht) (hp.startsUnquoted d t) (hp.startsUnquoted d t')

/-- A plain text at the end. -/
lemma after {p s s' : String} (hs : T s s') (hp : Plain p) : T (s ++ p) (s' ++ p) := by
  have := h.between hs hp h.empty
  rwa [String.append_empty, String.append_empty] at this

/-- Texts in parentheses after another text. -/
lemma append_parens {f f' s s' : String} (hf : T f f') (hs : T s s') :
    T (f ++ "(" ++ s ++ ")") (f' ++ "(" ++ s' ++ ")") := by
  have hstart (s : String) : StartsUnquoted d ("(" ++ s ++ ")") := by
    rw [StartsUnquoted, String.append_assoc, head?_toList_append (by decide)]
    intro c hc
    cases hc
    cases d <;> rfl
  have := h.append hf (h.parens hs) (hstart s) (hstart s')
  simpa only [String.append_assoc] using this

/-- Texts with separators. -/
lemma intercalate {p : String} (hp : Plain p) {ss ss' : List String}
    (hss : List.Forall₂ T ss ss') : T (p.intercalate ss) (p.intercalate ss') := by
  induction hss with
  | nil => exact h.empty
  | cons hs hss ih =>
    cases hss with
    | nil =>
      rw [String.intercalate_singleton, String.intercalate_singleton]
      exact hs
    | cons _ _ =>
      rw [String.intercalate_cons_cons, String.intercalate_cons_cons]
      exact h.between hs hp ih

/-! ## Terms -/

/-- The arguments of a function. -/
lemma printAll {as as' : List Term} {comma : String} (hcomma : Plain comma)
    (has : List.Forall₂ (Printed d T) as as') :
    T (comma.intercalate (Term.printAll d as)) (comma.intercalate (Term.printAll d as')) := by
  rw [Term.printAll_eq_map, Term.printAll_eq_map]
  refine h.intercalate hcomma ?_
  rw [List.forall₂_map_left_iff, List.forall₂_map_right_iff]
  exact has

/-- A call of a function as it is. -/
lemma call {name : String} {as as' : List Term} (hname : T name name)
    (has : List.Forall₂ (Printed d T) as as') :
    Printed d T (.call name as) (.call name as') := by
  rw [Term.call, Term.call, Printed, Term.print, Term.print]
  exact h.append_parens hname (h.printAll (by decide) has)

/-- A column, whose name may differ. -/
lemma column {name name' : String} (hname : T (d.quoteName name) (d.quoteName name'))
    (table? : Option String) :
    Printed d T (.column table? name) (.column table? name') := by
  cases table? with
  | none => exact hname
  | some table => exact h.between (h.name table) (by decide) hname

/-- A temporal literal, whose string may differ. -/
lemma temporal {s s' : String} (hs : T (quoteSqlString s) (quoteSqlString s'))
    (kind : TemporalKind) : Printed d T (.temporal kind s) (.temporal kind s') := by
  rw [Printed, Term.print, Term.print]
  cases kind with
  | date => exact h.before (by decide) hs
  | timeOfDay => exact h.before (by decide) hs
  | dateTime =>
    rw [Term.printTemporal, Term.printTemporal]
    split
    · have htext (s : String) : "CONVERT(" ++ s ++ ", DATETIME(3))" =
          "CONVERT" ++ "(" ++ (s ++ ", DATETIME" ++ "(" ++ "3" ++ ")") ++ ")" := by
        apply String.toList_injective
        simp
      have hdigits := h.append_parens (h.after hs (p := ", DATETIME") (by decide))
        (h.plain (p := "3") (by decide))
      rw [htext, htext]
      exact h.append_parens (h.plain (by decide)) hdigits
    · exact h.before (by decide) hs

end Parts

/-- **Putting terms together keeps the relation of their texts**, and what it does to the outside of
them. -/
lemma Outside.congruence {T' : String → String → Prop} (h : TextCongruence d T)
    (h' : Outside T T') : Congruence Neutral (Printed d T) (Printed d T') where
  weaken ht := h'.weaken ht
  texts := neutral_of_mem_templateTexts
  verbatim hs := h'.neutral hs
  string := h'.literal
  before hs ha := by
    have := h'.parens (h.before hs.1 ha)
    simpa only [Printed, Term.print, String.append_assoc] using this
  after hs ha := by
    have := h'.parens (h.after ha hs.1)
    simpa only [Printed, Term.print, String.append_assoc] using this
  between hs ha hb := by
    have := h'.parens (h.between ha hs.1 hb)
    simpa only [Printed, Term.print, String.append_assoc] using this
  apply hf hs has := by
    rw [Printed, Term.print, Term.print]
    exact h'.append_parens (h'.neutral hf) (h.printAll hs.1 has)
  position ha hb := by
    have htext (s t : String) : "POSITION(" ++ s ++ " IN " ++ t ++ ")" =
        "POSITION" ++ "(" ++ (s ++ " IN " ++ t) ++ ")" := by
      apply String.toList_injective
      simp
    rw [Printed, Term.print, Term.print, htext, htext]
    exact h'.append_parens (h'.neutral (by decide +kernel)) (h.between ha (by decide) hb)
  extract {s _ _} hs ha := by
    have htext (t : String) : "EXTRACT(" ++ s ++ " FROM " ++ t ++ ")" =
        "EXTRACT" ++ "(" ++ (s ++ (" FROM " ++ t)) ++ ")" := by
      apply String.toList_injective
      simp
    rw [Printed, Term.print, Term.print, htext, htext]
    exact h'.append_parens (h'.neutral (by decide +kernel))
      (h.before hs.1 (h.before (by decide) ha))
  integral ha := h'.cast ha
  group ha := h'.parens ha

section Wholes

variable (h : TextCongruence d T)
include h

/-- A congruence of texts is its own relation for the outside. -/
lemma outside : Outside T T where
  weaken hs := hs
  neutral hp := h.plain hp.1
  literal := h.literal
  parens := h.parens
  append_parens := h.append_parens
  cast hs := h.after hs (by decide)

/-- Putting terms together keeps the relation of their texts. -/
lemma congruence : Congruence Neutral (Printed d T) (Printed d T) := h.outside.congruence h

/-- A column that does not differ. -/
lemma columnTerm (name : String) :
    Printed d T (Sql.columnTerm name) (Sql.columnTerm name) := by
  unfold Sql.columnTerm
  split <;> exact h.column (h.name _) _

/-! ## Statements -/

/-- Items of a clause. -/
lemma printClause {keyword : String} (hkeyword : Plain keyword) {items items' : List String}
    (hitems : List.Forall₂ T items items') :
    List.Forall₂ T (Select.printClause keyword items) (Select.printClause keyword items') := by
  cases hitems with
  | nil => exact .nil
  | cons hs hss =>
    exact .cons (h.before hkeyword (h.intercalate (by decide) (.cons hs hss))) .nil

/-- The name of a table. -/
lemma printTable (parts : List String) :
    T (Select.printTable d parts) (Select.printTable d parts) := by
  refine h.intercalate (by decide) (List.forall₂_same.2 fun s hs => ?_)
  obtain ⟨part, -, rfl⟩ := List.mem_map.1 hs
  exact h.name part

/-- A sort key. -/
lemma printOrdering {o o' : Ordering} (hterm : Printed d T o.term o'.term)
    (hdescending : o.descending = o'.descending) :
    T (Select.printOrdering d o) (Select.printOrdering d o') := by
  unfold Select.printOrdering
  rw [hdescending]
  split
  · exact h.after hterm (by decide)
  · exact hterm

/-- Numbers of rows. -/
lemma numbers (ns : List Nat) : List.Forall₂ T (ns.map toString) (ns.map toString) := by
  refine List.forall₂_same.2 fun s hs => ?_
  obtain ⟨n, -, rfl⟩ := List.mem_map.1 hs
  exact h.plain (neutral_toString n).1

/-- **Statements of the same form with related terms have related texts.** -/
theorem print {s s' : Select} (hs : s.Alike (Printed d T) s') : T (s.print d) (s'.print d) := by
  have hterms {ts ts' : List Term} (hts : List.Forall₂ (Printed d T) ts ts') :
      List.Forall₂ T (ts.map (·.print d)) (ts'.map (·.print d)) := by
    rw [List.forall₂_map_left_iff, List.forall₂_map_right_iff]
    exact hts
  have hselect := hs.items
  have hfilter := hs.filter
  have horder : List.Forall₂ T (s.orderBy.map (Select.printOrdering d))
      (s'.orderBy.map (Select.printOrdering d)) := by
    rw [List.forall₂_map_left_iff, List.forall₂_map_right_iff]
    exact hs.orderBy.imp fun o o' ho => h.printOrdering ho.1 ho.2
  obtain ⟨limits, offsets, hrange⟩ := exists_printRange d s.limit s.offset
  unfold Select.print
  rw [← hs.tables, ← hs.limit, ← hs.offset, hrange]
  generalize s.items? = items?, s'.items? = items?' at hselect
  generalize s.filter? = filter?, s'.filter? = filter?' at hfilter
  refine h.intercalate (by decide) ?_
  refine List.rel_append (List.rel_append (List.rel_append (List.rel_append (List.rel_append
    (.cons ?_ .nil) (.cons ?_ .nil)) ?_) ?_) ?_) (List.rel_append ?_ ?_)
  · cases hselect with
    | none => exact h.plain (p := "SELECT *") (by decide)
    | some hitems => exact h.before (by decide) (h.intercalate (by decide) (hterms hitems))
  · refine h.before (by decide) (h.intercalate (by decide) (List.forall₂_same.2 fun t ht => ?_))
    obtain ⟨parts, -, rfl⟩ := List.mem_map.1 ht
    exact h.printTable parts
  · cases hfilter with
    | none => exact .nil
    | some ht => exact h.printClause (by decide) (.cons ht .nil)
  · exact h.printClause (by decide) (hterms hs.groupBy)
  · exact h.printClause (by decide) horder
  · exact h.printClause (by decide) (h.numbers limits)
  · exact h.printClause (by decide) (h.numbers offsets)

end Wholes

end TextCongruence

end ChartQuery.Sql
