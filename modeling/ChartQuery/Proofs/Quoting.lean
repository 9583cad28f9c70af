import ChartQuery.Proofs.Tiling

/-!
# Written names and strings are scanned again

A name is written bare if the scanner takes the bare word for a name, and between back quotes
otherwise; a string is written between quotes of a sort that it does not hold.  What is written is
scanned as a single token with the name or the string as its text, and scanning goes on right behind
it.  This is so exactly if the name has no back quote, and if the string does not have both sorts of
straight quotes.  What follows matters for bare names only, which must not go on in it.

The names and strings of all tokens are of this form, so that whatever was scanned can be written.
-/

namespace ChartQuery.Token

/-- `ScansTo s kind text r`: wherever the text `s` stands, if `r` follows it, the scanner reads it
as a token with this kind and text, and then stands before `r`. -/
def ScansTo (s : String) (kind : Kind) (text : String) (r : List Char) : Prop :=
  ∀ n, scan ⟨n, s.toList ++ r⟩ = (⟨n + 1, kind, text⟩, ⟨n + s.length, r⟩)

variable {s name text : String} {kind : Kind} {r : List Char}

/-- What is read as a token is scanned to it. -/
lemma ReadsAs.scansTo (h : ReadsAs s.toList kind text r) : ScansTo s kind text r := by
  intro n
  rw [h.scan_eq, String.length_toList]

/-- What is scanned to a token other than the end of the text is its lexeme. -/
lemma ScansTo.isLexeme (h : ScansTo s kind text r) (hkind : kind ≠ .endOfText) :
    IsLexeme kind text s.toList r := by
  have hscan := h 0
  obtain ⟨-, heot⟩ | ⟨blanks, cs, r', kind', text', hrest, -, hlexeme, heq⟩ :=
    scan_cases ⟨0, s.toList ++ r⟩
  · rw [hscan] at heot
    simp only [Prod.mk.injEq, Token.mk.injEq] at heot
    exact absurd heot.1.2.1 hkind
  · rw [hscan] at heq
    simp only [Prod.mk.injEq, Token.mk.injEq, Cursor.mk.injEq] at heq
    obtain ⟨⟨hpos, rfl, rfl⟩, -, rfl⟩ := heq
    -- The token begins where the text does, so that no blanks stand in front of its lexeme.
    obtain rfl : blanks = [] := List.eq_nil_of_length_eq_zero (by omega)
    obtain rfl : s.toList = cs := List.append_cancel_right hrest
    exact hlexeme

/-- Nothing that belongs to a bare name follows it. -/
lemma IsLexeme.ends (h : IsLexeme .identifier name name.toList r)
    (hplain : isPlainName name = true) : Ends isNameChar r := by
  obtain ⟨⟨-, hall⟩, -⟩ := isPlainName_iff.1 hplain
  generalize hcs : name.toList = cs at h hall
  cases h with
  | name _ _ hr => exact hr
  | reserved _ hkind _ => exact absurd (by simp) (keyword?_ne hkind)
  | operator _ _ hkind _ => exact absurd (by simp) (keyword?_ne hkind)
  | quoted hquote _ =>
    obtain ⟨hkind, -⟩ | ⟨-, rfl⟩ := hquote
    · cases hkind
    · simp [isNameChar] at hall

/-! ## What is written -/

/-- **A written name is scanned as the name** exactly if the name has no back quote and, where it is
bare, does not go on in what follows. -/
theorem scansTo_quoteName_iff : ScansTo (quoteName name) .identifier name r ↔
    Nameable name ∧ (isPlainName name = true → Ends isNameChar r) := by
  constructor
  · intro h
    have hgenuine := genuine_scan ⟨0, (quoteName name).toList ++ r⟩
    rw [h 0] at hgenuine
    refine ⟨nameable_of_genuine hgenuine rfl, fun hplain => ?_⟩
    have hlexeme := h.isLexeme (by decide)
    rw [quoteName, if_pos hplain] at hlexeme
    exact hlexeme.ends hplain
  · rintro ⟨hname, hr⟩
    exact (readsAs_quoteName hname hr).scansTo

/-- **A written string is scanned as the string** exactly if it does not have both sorts of straight
quotes. -/
theorem scansTo_quoteString_iff : ScansTo (quoteString text) .string text r ↔ Quotable text := by
  constructor
  · intro h
    have hgenuine := genuine_scan ⟨0, (quoteString text).toList ++ r⟩
    rw [h 0] at hgenuine
    exact quotable_of_genuine hgenuine rfl
  · intro h
    exact (readsAs_quoteString h r).scansTo

/-- **What is written is scanned again, and all that was scanned can be written.**  A name in front
of anything but a character of a name is scanned as that name, with the scanner right behind it, if
and only if it has no back quote; a string in front of anything, if and only if it does not have
both sorts of straight quotes.  Whatever the scanner reads as a name or as a string is such a name
or such a string. -/
theorem scansTo_written :
    (∀ name r, Ends isNameChar r →
      (ScansTo (quoteName name) .identifier name r ↔ '\x60' ∉ name.toList)) ∧
    (∀ text r, ScansTo (quoteString text) .string text r ↔
      ¬('\x27' ∈ text.toList ∧ '\x22' ∈ text.toList)) ∧
    ∀ c t c', scan c = (t, c') →
      (t.kind = .identifier → '\x60' ∉ t.text.toList) ∧
      (t.kind = .string → ¬('\x27' ∈ t.text.toList ∧ '\x22' ∈ t.text.toList)) := by
  have hquotable : ∀ text, Quotable text ↔ ¬('\x27' ∈ text.toList ∧ '\x22' ∈ text.toList) :=
    fun text => Decidable.not_and_iff_not_or_not.symm
  refine ⟨fun name r hr => ?_, fun text r => ?_, fun c t c' hscan => ?_⟩
  · rw [scansTo_quoteName_iff]
    exact and_iff_left fun _ => hr
  · rw [scansTo_quoteString_iff, hquotable]
  · have hgenuine : t.Genuine := by
      have := genuine_scan c
      rwa [hscan] at this
    exact ⟨nameable_of_genuine hgenuine, fun hkind =>
      (hquotable _).1 (quotable_of_genuine hgenuine hkind)⟩

/-- A reserved word as a name in front of a number, a string with a single quote in front of another
string, and a name that was read. -/
theorem scansTo_written_date :
    (Ends isNameChar ['.', '5'] ∧ '\x60' ∉ "Date".toList ∧
      ScansTo (quoteName "Date") .identifier "Date" ['.', '5']) ∧
    (¬('\x27' ∈ "it's".toList ∧ '\x22' ∈ "it's".toList) ∧
      ScansTo (quoteString "it's") .string "it's" ['\x22', 'a', '\x22']) ∧
    scan (.ofString "\x60a.o\x60 + 1") = (⟨1, .identifier, "a.o"⟩, ⟨5, " + 1".toList⟩) ∧
      '\x60' ∉ "a.o".toList := by
  have hends : Ends isNameChar ['.', '5'] := by simp [Ends, isNameChar]
  have hscan : scan (.ofString "\x60a.o\x60 + 1") = (⟨1, .identifier, "a.o"⟩, ⟨5, " + 1".toList⟩) :=
    by decide
  obtain ⟨hname, hstring, hread⟩ := scansTo_written
  exact ⟨⟨hends, by decide, (hname "Date" _ hends).2 (by decide)⟩,
    ⟨by decide, (hstring "it's" _).2 (by decide)⟩, hscan, (hread _ _ _ hscan).1 rfl⟩

end ChartQuery.Token
