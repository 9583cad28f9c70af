import ChartQuery.Sql.Dialect
import ChartQuery.Token.Scan
import Mathlib.Tactic.Common

/-!
# Quoted spans in texts of SQL

How a database takes a text apart, as far as quoting is concerned.  Single quotes enclose a string,
and the quote character of the dialect encloses a name.  Inside of such a span a quote that is
doubled stands for itself, and a quote that is not ends the span.  Outside of spans every character
stands for itself.

A text is closed if no span is left open at its end.  What is read of a closed text does not change
when other text follows, as long as that text does not begin with a quote, which would be taken for
the second half of a doubled one.
-/

namespace ChartQuery

/-- The characters that begin a quoted span. -/
def Dialect.isQuote (d : Dialect) (c : Char) : Bool := c == '\x27' || c == d.quoteChar

namespace Sql

/-! ## Reading -/

/-- What a text of SQL consists of: words, other characters, and quoted spans with their contents.
A span that the text ends in is unclosed. -/
inductive Piece
  | word (chars : List Char)
  | sign (c : Char)
  | quoted (quote : Char) (contents : List Char)
  | unclosed (quote : Char) (contents : List Char)
  deriving DecidableEq, Repr

/-- A character outside of quoted spans. -/
def Piece.ofChar (c : Char) : Piece := if Token.isNameChar c then .word [c] else .sign c

/-- Whether a piece is a span that is left open. -/
def Piece.isUnclosed : Piece → Bool
  | .unclosed _ _ => true
  | _ => false

/-- Where a reader stands: outside of spans, within a span, or after a quote in a span, which ends
the span unless another one follows. -/
inductive Mode
  | outside
  | within (quote : Char) (contents : List Char)
  | ending (quote : Char) (contents : List Char)

/-- What a reader does at a character: the pieces that are complete then, and where it stands. -/
def Mode.step (d : Dialect) : Mode → Char → List Piece × Mode
  | .outside, c => if d.isQuote c then ([], .within c []) else ([.ofChar c], .outside)
  | .within q s, c => if c = q then ([], .ending q s) else ([], .within q (s ++ [c]))
  | .ending q s, c =>
    if c = q then ([], .within q (s ++ [c]))
    else if d.isQuote c then ([.quoted q s], .within c [])
    else ([.quoted q s, .ofChar c], .outside)

/-- The last piece at the end of a text. -/
def Mode.finish : Mode → List Piece
  | .outside => []
  | .within q s => [.unclosed q s]
  | .ending q s => [.quoted q s]

/-- The pieces that are read from some mode on, each word of a single character. -/
def read (d : Dialect) : Mode → List Char → List Piece
  | m, [] => m.finish
  | m, c :: cs => (m.step d c).1 ++ read d (m.step d c).2 cs

/-- The pieces of a text, each word of a single character. -/
def pieces (d : Dialect) (s : String) : List Piece := read d .outside s.toList

/-- Whether no span of a text is left open. -/
def Closed (d : Dialect) (s : String) : Prop := ∀ p ∈ pieces d s, p.isUnclosed = false

instance (d : Dialect) : DecidablePred (Closed d) := fun s =>
  inferInstanceAs (Decidable (∀ p ∈ pieces d s, p.isUnclosed = false))

/-- Whether the first character, if there is one, is not a quote. -/
def StartsUnquoted (d : Dialect) (s : String) : Prop := ∀ c ∈ s.toList.head?, d.isQuote c = false

/-- The first character is that of the first text that is not empty. -/
lemma head?_toList_append {s : String} (hs : s ≠ "") (t : String) :
    (s ++ t).toList.head? = s.toList.head? := by
  cases htext : s.toList with
  | nil => exact absurd (String.toList_injective htext) hs
  | cons c cs => rw [String.toList_append, htext]; rfl

/-! ## One text after another -/

variable {d : Dialect}

/-- Whether the span that a reader stands in, if any, was begun by a quote. -/
def Mode.Proper (d : Dialect) : Mode → Prop
  | .outside => True
  | .within q _ | .ending q _ => d.isQuote q = true

/-- Spans are begun by quotes only. -/
lemma Mode.Proper.step {m : Mode} (h : m.Proper d) (c : Char) : (m.step d c).2.Proper d := by
  cases m with
  | outside =>
    rw [Mode.step]
    split
    · next hquote => exact hquote
    · exact trivial
  | within q s =>
    rw [Mode.step]
    split <;> exact h
  | ending q s =>
    rw [Mode.step]
    split
    · exact h
    split
    · next hquote => exact hquote
    · exact trivial

/-- A span ends before everything that does not double its quote. -/
lemma read_ending {q : Char} (s : List Char) {r : List Char} (hr : ∀ c ∈ r.head?, c ≠ q) :
    read d (.ending q s) r = .quoted q s :: read d .outside r := by
  cases r with
  | nil => rfl
  | cons c r =>
    have hstep : Mode.step d (.ending q s) c =
        (.quoted q s :: (Mode.step d .outside c).1, (Mode.step d .outside c).2) := by
      rw [Mode.step, Mode.step, if_neg (hr c rfl)]
      split <;> rfl
    rw [read, read, hstep, List.cons_append]

/-- After characters in which no span is left open, reading starts anew. -/
lemma read_append {r : List Char} (hr : ∀ c ∈ r.head?, d.isQuote c = false) {m : Mode}
    (hm : m.Proper d) {cs : List Char} (hcs : ∀ p ∈ read d m cs, p.isUnclosed = false) :
    read d m (cs ++ r) = read d m cs ++ read d .outside r := by
  induction cs generalizing m with
  | nil =>
    cases m with
    | outside => rfl
    | within q s => exact absurd (hcs _ (List.mem_singleton_self _)) (by simp [Piece.isUnclosed])
    | ending q s =>
      refine read_ending s fun c hc hq => ?_
      rw [Mode.Proper, ← hq, hr c hc] at hm
      cases hm
  | cons c cs ih =>
    rw [read, List.forall_mem_append] at hcs
    rw [List.cons_append, read, read, ih (hm.step c) hcs.2, List.append_assoc]

/-- What is read of a closed text and of a text that follows it. -/
lemma pieces_append {s t : String} (hs : Closed d s) (ht : StartsUnquoted d t) :
    pieces d (s ++ t) = pieces d s ++ pieces d t := by
  rw [pieces, String.toList_append]
  exact read_append (m := .outside) ht trivial hs

/-- Closed texts one after another are closed. -/
lemma Closed.append {s t : String} (hs : Closed d s) (ht : Closed d t)
    (hstart : StartsUnquoted d t) : Closed d (s ++ t) := by
  rw [Closed, pieces_append hs hstart, List.forall_mem_append]
  exact ⟨hs, ht⟩

/-! ## Texts without quotes -/

/-- The pieces of characters among which there is no quote. -/
def spelled (s : String) : List Piece := s.toList.map .ofChar

/-- Reading characters among which there is no quote, whatever follows them. -/
lemma read_unquoted {cs : List Char} (hcs : ∀ c ∈ cs, d.isQuote c = false) (r : List Char) :
    read d .outside (cs ++ r) = cs.map .ofChar ++ read d .outside r := by
  induction cs with
  | nil => rfl
  | cons c cs ih =>
    obtain ⟨hc, hcs⟩ := List.forall_mem_cons.1 hcs
    rw [List.cons_append, read, Mode.step, if_neg (by simp [hc]), ih hcs]
    rfl

/-- What is read of a text without quotes and of any text that follows it. -/
lemma pieces_unquoted_append {s : String} (hs : ∀ c ∈ s.toList, d.isQuote c = false)
    (t : String) : pieces d (s ++ t) = spelled s ++ pieces d t := by
  rw [pieces, String.toList_append]
  exact read_unquoted hs _

/-- What is read of a text without quotes. -/
lemma pieces_unquoted {s : String} (hs : ∀ c ∈ s.toList, d.isQuote c = false) :
    pieces d s = spelled s := by
  have h := pieces_unquoted_append hs ""
  rwa [String.append_empty, show pieces d "" = [] from rfl, List.append_nil] at h

/-- Characters are no open spans. -/
lemma isUnclosed_of_mem_spelled {s : String} {p : Piece} (hp : p ∈ spelled s) :
    p.isUnclosed = false := by
  obtain ⟨c, -, rfl⟩ := List.mem_map.1 hp
  unfold Piece.ofChar
  split <;> rfl

/-- A text without quotes leaves no span open. -/
lemma Closed.before {s t : String} (hs : ∀ c ∈ s.toList, d.isQuote c = false) (ht : Closed d t) :
    Closed d (s ++ t) := by
  rw [Closed, pieces_unquoted_append hs, List.forall_mem_append]
  exact ⟨fun _ => isUnclosed_of_mem_spelled, ht⟩

/-! ## Quoted texts -/

/-- Within a span, contents with doubled quotes are read up to the quote that ends the span. -/
lemma read_doubled {q : Char} (s t : List Char) {r : List Char} (hr : ∀ c ∈ r.head?, c ≠ q) :
    read d (.within q s) (t.flatMap (fun c => if c = q then [q, q] else [c]) ++ q :: r) =
      .quoted q (s ++ t) :: read d .outside r := by
  induction t generalizing s with
  | nil => simp [read, Mode.step, read_ending s hr]
  | cons c t ih =>
    by_cases hc : c = q
    · simp [hc, read, Mode.step, ih]
    · simp [hc, read, Mode.step, ih]

/-- What is read of a text between quotes with its own quotes doubled. -/
lemma pieces_doubled {q : Char} (hq : d.isQuote q = true) (text : String) :
    pieces d (String.ofList [q] ++ Text.doubled q text ++ String.ofList [q]) =
      [.quoted q text.toList] := by
  have hread := read_doubled (d := d) (q := q) [] text.toList (r := []) nofun
  simp only [pieces, String.toList_append, String.toList_ofList, Text.doubled, Text.replaceEach,
    List.cons_append, List.nil_append] at hread ⊢
  rw [read, Mode.step, if_pos hq]
  exact hread

/-- A text that is a single span is closed. -/
lemma closed_of_quoted {s : String} {q : Char} {contents : List Char}
    (h : pieces d s = [.quoted q contents]) : Closed d s := by
  rw [Closed, h]
  exact fun p hp => List.mem_singleton.1 hp ▸ rfl

/-- **A string literal is read as a single span** with what it was made from as its contents. -/
lemma pieces_quoteSqlString (text : String) :
    pieces d (quoteSqlString text) = [.quoted '\x27' text.toList] :=
  pieces_doubled (q := '\x27') rfl text

/-- **A quoted name is read as a single span** with the name as its contents. -/
lemma pieces_quoteName (name : String) :
    pieces d (d.quoteName name) = [.quoted d.quoteChar name.toList] :=
  pieces_doubled (by simp [Dialect.isQuote]) name

end Sql

end ChartQuery
