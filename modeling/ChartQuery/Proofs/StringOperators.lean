import ChartQuery.Proofs.StringLiterals
import Mathlib.Data.List.Infix

/-!
# What the string operators mean

The operators `starts with`, `contains` and `ends with` become comparisons of the first or last
characters, or of the place where one text occurs in another.  A database computes them with
functions that count characters, but for one: `LENGTH` counts the bytes of a text in MySQL.

So `starts with` and `contains` say in both dialects whether the one text begins the other or occurs
in it, and `ends with` does so in PostgreSQL.  In MySQL it takes as many last characters as there
are bytes, and says so only of texts without characters beyond ASCII, or of equal ones.
-/

namespace ChartQuery

/-- What `LENGTH` counts in a text: the bytes of its UTF-8 form in MySQL, the characters
elsewhere. -/
def Dialect.textLength (d : Dialect) (s : List Char) : Nat :=
  match d with
  | .mySql => s.foldr (fun c n => c.utf8Size + n) 0
  | .gql | .postgreSql => s.length

namespace Sql

/-! ## Values -/

/-- The values that a database computes with. -/
inductive Datum
  | text (s : String)
  | number (n : Nat)
  | truth (b : Bool)
  deriving DecidableEq

/-- The place of the first occurrence of a text in another, counted from one; zero if it does not
occur. -/
def place (needle haystack : List Char) : Nat :=
  (haystack.tails.findIdx? fun r => needle.isPrefixOf r).elim 0 (· + 1)

/-- What a function makes of its arguments. -/
def builtin (d : Dialect) : String → List Datum → Option Datum
  | "LEFT", [.text s, .number n] => some (.text (String.ofList (s.toList.take n)))
  | "RIGHT", [.text s, .number n] =>
    some (.text (String.ofList (s.toList.drop (s.toList.length - n))))
  | "LENGTH", [.text s] => some (.number (d.textLength s.toList))
  | "INSTR", [.text haystack, .text needle] => some (.number (place needle.toList haystack.toList))
  | _, _ => none

/-- What a comparison says about two values of one kind. -/
def comparison : String → Datum → Datum → Option Datum
  | "=", .text s, .text t => some (.truth (s == t))
  | "=", .number m, .number n => some (.truth (m == n))
  | ">", .number m, .number n => some (.truth (decide (n < m)))
  | _, _, _ => none

/-- The text that a whole string literal denotes. -/
def denoted? (d : Dialect) (escape : Char → Char) (literal : String) : Option String :=
  match literal? d escape literal.toList with
  | some (contents, []) => some (String.ofList contents)
  | _ => none

namespace Term

variable (d : Dialect) (escape : Char → Char) (row : Option String → String → Datum)

mutual

/-- The value of a term in a row, if it is made of what the string operators become. -/
def eval : Term → Option Datum
  | verbatim digits => (Query.natural? digits).map .number
  | string text => (denoted? d escape (quoteSqlString text)).map .text
  | column table? name => some (row table? name)
  | between l symbol r => do
    let a ← eval l
    let b ← eval r
    comparison symbol a b
  | apply f _ args => do
    let values ← evalAll args
    builtin d f values
  | position needle haystack =>
    match eval needle, eval haystack with
    | some (.text n), some (.text h) => some (.number (place n.toList h.toList))
    | _, _ => none
  | group e => eval e
  | _ => none

/-- The values of the terms of a list. -/
def evalAll : List Term → Option (List Datum)
  | [] => some []
  | e :: es => do
    let a ← eval e
    let as ← evalAll es
    some (a :: as)

end

end Term

/-- `Tells x P`: the value is a truth value, which is true exactly if `P` holds. -/
def Tells (x : Option Datum) (P : Prop) : Prop :=
  ∃ p : Bool, x = some (.truth p) ∧ (p = true ↔ P)

/-! ## Places -/

variable {needle haystack : List Char}

/-- A text stands at the first place if it begins the other. -/
lemma place_eq_one_iff : place needle haystack = 1 ↔ needle <+: haystack := by
  obtain ⟨rest, hrest⟩ : ∃ rest, haystack.tails = haystack :: rest := by
    cases haystack <;> exact ⟨_, rfl⟩
  rw [place, hrest, List.findIdx?_cons, ← List.isPrefixOf_iff_prefix]
  cases hprefix : needle.isPrefixOf haystack with
  | true => simp
  | false => cases rest.findIdx? _ <;> simp

/-- A text stands at some place if it occurs in the other. -/
lemma place_pos_iff : 0 < place needle haystack ↔ needle <:+: haystack := by
  have hplace : 0 < place needle haystack ↔
      (haystack.tails.findIdx? fun r => needle.isPrefixOf r).isSome = true := by
    rw [place]
    cases haystack.tails.findIdx? _ <;> simp
  rw [hplace, List.findIdx?_isSome, List.any_eq_true, List.infix_iff_prefix_suffix]
  simp only [List.mem_tails, List.isPrefixOf_iff_prefix, and_comm]

/-! ## Lengths -/

/-- The ASCII characters are those of a single byte. -/
lemma utf8Size_eq_one_iff_lt {c : Char} : c.utf8Size = 1 ↔ c.toNat < 128 := by
  rw [Char.utf8Size_eq_one_iff, UInt32.le_iff_toNat_le]
  exact Nat.lt_succ_iff.symm

/-- A text has at least as many bytes as characters, and as many only if all of them are ASCII. -/
lemma textLength_mySql (s : List Char) : s.length ≤ Dialect.mySql.textLength s ∧
    (Dialect.mySql.textLength s = s.length ↔ ∀ c ∈ s, c.toNat < 128) := by
  induction s with
  | nil => exact ⟨Nat.le_refl 0, fun _ => nofun, fun _ => rfl⟩
  | cons c s ih =>
    obtain ⟨hle, hiff⟩ := ih
    have hpos := c.utf8Size_pos
    have hcons : Dialect.mySql.textLength (c :: s) = c.utf8Size + Dialect.mySql.textLength s := rfl
    rw [List.forall_mem_cons, ← hiff, ← utf8Size_eq_one_iff_lt, hcons, List.length_cons]
    omega

/-- `LENGTH` counts at least the characters. -/
lemma length_le_textLength (d : Dialect) (s : List Char) : s.length ≤ d.textLength s := by
  cases d with
  | gql | postgreSql => exact Nat.le_refl _
  | mySql => exact (textLength_mySql s).1

/-- `LENGTH` counts the characters of ASCII texts, and in other dialects than MySQL of all texts. -/
lemma textLength_eq_iff {d : Dialect} {s : List Char} :
    d.textLength s = s.length ↔ (d = .mySql → ∀ c ∈ s, c.toNat < 128) := by
  cases d with
  | gql | postgreSql => simp [Dialect.textLength]
  | mySql => exact (textLength_mySql s).2.trans (by simp)

/-- The last characters of a text, as many as `LENGTH` counts in another, are that other text if and
only if it ends the text, and is counted by its characters or is the whole text. -/
lemma drop_textLength_iff (d : Dialect) {a b : List Char} :
    a.drop (a.length - d.textLength b) = b ↔
      b <:+ a ∧ (d.textLength b = b.length ∨ a = b) := by
  have hle := length_le_textLength d b
  constructor
  · intro h
    have hsuffix : b <:+ a := h ▸ List.drop_suffix _ _
    have hlength := congrArg List.length h
    rw [List.length_drop] at hlength
    refine ⟨hsuffix, or_iff_not_imp_left.2 fun hne => ?_⟩
    exact (hsuffix.eq_of_length (by omega)).symm
  · rintro ⟨hsuffix, hlength | rfl⟩
    · rw [hlength]
      exact (List.suffix_iff_eq_drop.1 hsuffix).symm
    · rw [Nat.sub_eq_zero_of_le hle, List.drop_zero]

/-! ## Operators -/

section Operators

variable {d : Dialect} {escape : Char → Char} {row : Option String → String → Datum}
  {x y : Expr} {t u : Term} {a b : String}

/-- An operator that is a word becomes what its function becomes. -/
lemma term_word {op : Operator} {symbol : String} {build : Term → Term → Term}
    (hop : op ∈ [Operator.contains, .startsWith, .endsWith])
    (hlower : symbol.toLower = symbol) (hmapping : mapping? d symbol = some (.binary build))
    (hx : term d x = .ok t) (hy : term d y = .ok u) :
    term d (.binary op symbol x y) = .ok (build t u) := by
  have hargs : terms d [x, y] = .ok [t, u] := by simp only [terms, hx, hy, ok_bind]
  have happly : applyOperator d op symbol [t, u] = applyFunction d symbol [t, u] := by
    simp only [List.mem_cons, List.not_mem_nil, or_false] at hop
    rcases hop with rfl | rfl | rfl <;> rfl
  rw [Expr.binary, term, hargs, ok_bind, happly, applyFunction, hlower, hmapping]
  rfl

section Eval

variable (ht : t.eval d escape row = some (.text a)) (hu : u.eval d escape row = some (.text b))

include ht hu

/-- The first characters of a text, as many as another has, are the other if it begins the text. -/
lemma tells_sameEnd_left (hd : d ≠ .mySql) :
    Tells ((sameEnd "LEFT" t u).eval d escape row) (b.toList <+: a.toList) := by
  have hlength : d.textLength b.toList = b.toList.length :=
    textLength_eq_iff.2 fun heq => absurd heq hd
  refine ⟨String.ofList (a.toList.take b.toList.length) == b, ?_, ?_⟩
  · simp only [sameEnd, Term.tightCall, Term.eval, Term.evalAll, ht, hu, Option.bind_eq_bind,
      Option.bind_some, builtin, comparison, hlength]
  · rw [beq_iff_eq, ← String.toList_inj, String.toList_ofList, List.prefix_iff_eq_take, eq_comm]

/-- The last characters of a text, as many as `LENGTH` counts in another, are the other if it ends
the text, and has ASCII characters only or is the text, should bytes be counted. -/
lemma tells_sameEnd_right :
    Tells ((sameEnd "RIGHT" t u).eval d escape row) (b.toList <:+ a.toList ∧
      ((d = .mySql → ∀ c ∈ b.toList, c.toNat < 128) ∨ a = b)) := by
  refine ⟨String.ofList (a.toList.drop (a.toList.length - d.textLength b.toList)) == b, ?_, ?_⟩
  · simp only [sameEnd, Term.tightCall, Term.eval, Term.evalAll, ht, hu, Option.bind_eq_bind,
      Option.bind_some, builtin, comparison]
  · rw [beq_iff_eq, ← String.toList_inj, ← String.toList_inj, String.toList_ofList,
      drop_textLength_iff, textLength_eq_iff]

/-- The place of a text in another is the first if it begins the other. -/
lemma tells_instr_eq_one :
    Tells ((Term.between (Term.call "INSTR" [t, u]) "=" (.verbatim "1")).eval d escape row)
      (b.toList <+: a.toList) := by
  have hone : Query.natural? "1" = some 1 := by decide +kernel
  refine ⟨place b.toList a.toList == 1, ?_, by rw [beq_iff_eq, place_eq_one_iff]⟩
  simp only [Term.call, Term.eval, Term.evalAll, ht, hu, hone, Option.bind_eq_bind,
    Option.bind_some, Option.map_some, builtin, comparison]

/-- The place of a text in another is one at all if it occurs there, whichever function finds it. -/
lemma tells_place_pos {find : Term} (hfind : find ∈ [Term.call "INSTR" [t, u], .position u t]) :
    Tells ((Term.between find ">" (.verbatim "0")).eval d escape row)
      (b.toList <:+: a.toList) := by
  have hzero : Query.natural? "0" = some 0 := by decide +kernel
  have heval : find.eval d escape row = some (.number (place b.toList a.toList)) := by
    simp only [List.mem_cons, List.not_mem_nil, or_false] at hfind
    rcases hfind with rfl | rfl <;>
      simp only [Term.call, Term.eval, Term.evalAll, ht, hu, Option.bind_eq_bind,
        Option.bind_some, builtin]
  refine ⟨decide (0 < place b.toList a.toList), ?_, by rw [decide_eq_true_iff, place_pos_iff]⟩
  simp only [Term.eval, heval, hzero, Option.bind_eq_bind, Option.bind_some, Option.map_some,
    comparison]

end Eval

/-- **What the string operators mean.**  Where the operands are texts, `starts with` and `contains`
say in every dialect whether the second text begins the first or occurs in it.  So does `ends with`,
whether it ends the first, except in MySQL if it has a character beyond ASCII and the texts are not
the same. -/
theorem exists_tells_word (hx : term d x = .ok t) (hy : term d y = .ok u)
    (ht : t.eval d escape row = some (.text a)) (hu : u.eval d escape row = some (.text b)) :
    (∃ v, term d (.binary .startsWith "starts" x y) = .ok v ∧
      Tells (v.eval d escape row) (b.toList <+: a.toList)) ∧
    (∃ v, term d (.binary .contains "contains" x y) = .ok v ∧
      Tells (v.eval d escape row) (b.toList <:+: a.toList)) ∧
    ∃ v, term d (.binary .endsWith "ends" x y) = .ok v ∧
      Tells (v.eval d escape row) (b.toList <:+ a.toList ∧
        ((d = .mySql → ∀ c ∈ b.toList, c.toNat < 128) ∨ a = b)) := by
  have hstarts : "starts".toLower = "starts" := by decide +kernel
  have hcontains : "contains".toLower = "contains" := by decide +kernel
  have hends : "ends".toLower = "ends" := by decide +kernel
  refine ⟨?starts, ?contains, ?ends⟩
  case starts =>
    cases d with
    | mySql => exact ⟨_, term_word (by decide) hstarts rfl hx hy, tells_instr_eq_one ht hu⟩
    | gql | postgreSql =>
      exact ⟨_, term_word (by decide) hstarts rfl hx hy, tells_sameEnd_left ht hu (by decide)⟩
  case contains =>
    cases d with
    | mySql =>
      exact ⟨_, term_word (by decide) hcontains rfl hx hy, tells_place_pos ht hu (.head _)⟩
    | gql | postgreSql =>
      exact ⟨_, term_word (by decide) hcontains rfl hx hy,
        tells_place_pos ht hu (.tail _ (.head _))⟩
  case ends => exact ⟨_, term_word (by decide) hends rfl hx hy, tells_sameEnd_right ht hu⟩

/-- A name that begins with two letters, compared with them in MySQL. -/
theorem exists_tells_word_begins :
    ∃ v, term .mySql (.binary .startsWith "starts" (.leaf .name "a") (.leaf .string "Jo")) = .ok v ∧
      Tells (v.eval .mySql id fun _ _ => .text "Jones") ("Jo".toList <+: "Jones".toList) := by
  have hx : term .mySql (.leaf .name "a") = .ok (.column none "a") := rfl
  have hy : term .mySql (.leaf .string "Jo") = .ok (.string "Jo") := rfl
  have hu : (Term.string "Jo").eval .mySql id (fun _ _ => .text "Jones") = some (.text "Jo") := by
    decide +kernel
  exact (exists_tells_word (a := "Jones") hx hy rfl hu).1

/-- A text that ends with a letter beyond ASCII does not do so for MySQL, where `LENGTH` counts two
bytes and so the last two characters are compared with the letter. -/
theorem exists_tells_ends_bytes :
    ∃ q e t u, Query.parse "select * where a ends with 'é'" false = .ok q ∧ q.filter? = some e ∧
      compile .mySql ⟨"emp", []⟩ q =
        .ok "SELECT * FROM \x60emp\x60 WHERE (RIGHT(\x60a\x60,LENGTH('é'))='é')" ∧
      term .mySql e = .ok t ∧ t.eval .mySql id (fun _ _ => .text "xé") = some (.truth false) ∧
      term .postgreSql e = .ok u ∧
        u.eval .postgreSql id (fun _ _ => .text "xé") = some (.truth true) ∧
      "é".toList <:+ "xé".toList := by
  have hends : "ends".toLower = "ends" := by decide +kernel
  obtain ⟨q, hq, h⟩ := exists_eq_ok (Query.parse "select * where a ends with 'é'" false)
    (fun q => decide (q.filter? =
        some (.binary .endsWith "ends" (.leaf .name "a") (.leaf .string "é")) ∧
      compile .mySql ⟨"emp", []⟩ q =
        .ok "SELECT * FROM \x60emp\x60 WHERE (RIGHT(\x60a\x60,LENGTH('é'))='é')"))
    (by decide +kernel)
  obtain ⟨hfilter, hcompile⟩ := of_decide_eq_true h
  refine ⟨q, _, _, _, hq, hfilter, hcompile, term_word (by decide) hends rfl rfl rfl, ?_,
    term_word (by decide) hends rfl rfl rfl, ?_, by decide⟩ <;> decide +kernel

end Operators

end Sql

end ChartQuery
