import ChartQuery.Proofs.Containment
import ChartQuery.Proofs.Deciding

/-!
# What a check of the outermost calls is worth

A query that is not extended is checked after it was read: the outermost node of each expression
has to be known by its name, with the right number of arguments.  The compiler looks functions up in
tables of its own, in any mixture of cases and at any depth.  Both agree on the names that the check
knows, so an outermost call that was checked always fits its template.  Calls below it were not
checked, and it is exactly for them that a checked query can still be refused.
-/

namespace ChartQuery

namespace Expr

/-- `Below e f`: the expression `f` stands below `e`, as an argument or an operand, or further down.
-/
def Below (e f : Expr) : Prop := e.kind.isInner = true ∧ ∃ arg ∈ e.args, Reaches arg f

end Expr

namespace Sql

open ChartQuery.Expr (arity?)

/-! ## Outermost calls -/

/-- **The check and the templates agree.**  A name that is known with a number of arguments has a
template for that number of arguments, if it has one. -/
lemma argumentCount?_of_arity? {name : String} {n : Nat} (h : arity? name = some n) :
    argumentCount? name.toLower = some n ∨ argumentCount? name.toLower = none := by
  unfold arity? at h
  split at h <;> first | cases h; done | (cases h; decide +kernel)

/-- The outermost node of a checked expression fits. -/
lemma fits_of_checkArity {e : Expr} (h : e.checkArity = .ok ()) : Fits e := by
  intro hcall n hn
  have hargs : (e.args.isEmpty && !e.emptyCall) = false := by
    rw [Bool.eq_false_iff]
    intro hleaf
    simp only [Expr.isCall, Bool.and_eq_true, Bool.or_eq_true, Bool.not_eq_true'] at hcall hleaf
    simp [hleaf] at hcall
  have harity : arity? e.text = some e.args.length := Expr.arity?_of_checkArity h hargs
  rcases argumentCount?_of_arity? harity with hcount | hcount
  · rw [hcount] at hn
    exact Option.some.inj hn
  · rw [hcount] at hn
    cases hn

/-- Whether all calls below the outermost node of an expression have the right number of arguments.
-/
def InnerFits (e : Expr) : Prop := ∀ f, e.Below f → Fits f

/-- The calls of a checked expression fit if those below its outermost node do. -/
lemma callsFit_iff_innerFits {e : Expr} (h : e.checkArity = .ok ()) : CallsFit e ↔ InnerFits e := by
  rw [callsFit_iff, and_iff_right (fits_of_checkArity h)]
  constructor
  · intro hargs f hf
    obtain ⟨hkind, arg, harg, hreaches⟩ := hf
    exact hargs hkind arg harg f hreaches
  · intro hinner hkind arg harg f hf
    exact hinner f ⟨hkind, arg, harg, hf⟩

/-! ## Checked queries -/

/-- Compiling a query that was read from a text is decided by its calls and its tables. -/
lemma decides_compile {text : String} {extended : Bool} {q : Query}
    (h : Query.parse text extended = .ok q) {d : Dialect} (hd : d ≠ .gql) (access : Access) :
    Decides (QueryFits q) (Accessible access q) (compile d access q) := by
  have hwritable : ∀ e ∈ q.compiled, e.Writable := fun e he =>
    ((Query.fromText_of_parse h).of_mem_compiled he).1
  have hselect := decides_select d access hwritable
  cases d with
  | gql => exact absurd rfl hd
  | mySql | postgreSql => exact hselect.map _

/-- The calls of a checked query fit if those below the outermost nodes do. -/
lemma queryFits_iff_innerFits {text : String} {q : Query} (h : Query.parse text false = .ok q) :
    QueryFits q ↔ ∀ e ∈ q.compiled, InnerFits e := by
  have hchecked : ∀ e ∈ q.compiled, e.checkArity = .ok () := fun e he =>
    ((Query.fromText_of_parse h).of_mem_compiled he).2 rfl
  exact forall₂_congr fun e he => callsFit_iff_innerFits (hchecked e he)

/-- **A checked query is refused for its inner calls only.**  A query that was checked is refused as
an invalid query exactly if a call below the outermost node of one of its compiled expressions has
another number of arguments than its template needs.  Otherwise it is compiled, or access to its
tables is denied. -/
theorem compile_checked {text : String} {q : Query} (h : Query.parse text false = .ok q)
    {d : Dialect} (hd : d ≠ .gql) (access : Access) :
    ((∃ f, compile d access q = .error f ∧ f.reason = .invalidQuery) ↔
      ∃ e ∈ q.compiled, ∃ f, e.Below f ∧ ¬ Fits f) ∧
    ((∀ e ∈ q.compiled, InnerFits e) →
      (Accessible access q → ∃ sql, compile d access q = .ok sql) ∧
      (¬ Accessible access q →
        ∃ f, compile d access q = .error f ∧ f.reason = .accessDenied)) := by
  have hdecides : Decides (∀ e ∈ q.compiled, InnerFits e) (Accessible access q)
      (compile d access q) :=
    (decides_compile h hd access).congr (queryFits_iff_innerFits h)
  refine ⟨⟨?_, ?_⟩, fun hinner => ⟨hdecides.succeeds hinner, hdecides.denies hinner⟩⟩
  · rintro ⟨f, hf, hreason⟩
    by_contra hnone
    have hinner : ∀ e ∈ q.compiled, InnerFits e := by
      intro e he g hg
      by_contra hfits
      exact hnone ⟨e, he, g, hg, hfits⟩
    by_cases haccess : Accessible access q
    · obtain ⟨sql, hsql⟩ := hdecides.succeeds hinner haccess
      rw [hsql] at hf
      cases hf
    · obtain ⟨g, hg, hdenied⟩ := hdecides.denies hinner haccess
      rw [hg] at hf
      cases hf
      rw [hdenied] at hreason
      cases hreason
  · rintro ⟨e, he, g, hg, hfits⟩
    exact hdecides.refuses fun hinner => hfits (hinner e he g hg)

/-- A call of `starts` with one argument stands below a checked call of `upper`. -/
theorem compile_checked_starts :
    ∃ q, Query.parse "select upper(starts(a))" false = .ok q ∧
      ∃ f, compile .postgreSql ⟨"emp", []⟩ q = .error f ∧ f.reason = .invalidQuery := by
  let starts : Expr := .call "starts" [.leaf .name "a"]
  obtain ⟨q, hq, hcompiled⟩ := exists_eq_ok (Query.parse "select upper(starts(a))" false)
    (fun q => decide (q.compiled = [.call "upper" [starts]])) (by decide +kernel)
  have hmem : Expr.call "upper" [starts] ∈ q.compiled := by
    rw [of_decide_eq_true hcompiled]
    exact List.mem_singleton_self _
  have hbelow : (Expr.call "upper" [starts]).Below starts :=
    ⟨rfl, starts, List.mem_singleton_self _, .here⟩
  have hfits : ¬ Fits starts := by
    intro hfits
    have hcount := hfits rfl 2 (by decide +kernel)
    cases hcount
  have hrefused := (compile_checked hq (d := .postgreSql) (by decide) ⟨"emp", []⟩).1.2
    ⟨_, hmem, starts, hbelow, hfits⟩
  exact ⟨q, hq, hrefused⟩

/-- **Inner calls have to be considered.**  Below a comparison a call with a wrong number of
arguments passes the check, and the compiler refuses it. -/
theorem compile_refused_upper :
    ∃ q, Query.parse "select * where upper(a, b) = 1" false = .ok q ∧
      ∃ f, compile .mySql ⟨"emp", []⟩ q = .error f ∧ f.reason = .invalidQuery := by
  obtain ⟨q, hq, hrefused⟩ := exists_eq_ok (Query.parse "select * where upper(a, b) = 1" false)
    (fun q => decide (verdict (compile .mySql ⟨"emp", []⟩ q) = some .invalidQuery))
    (by decide +kernel)
  have hverdict := of_decide_eq_true hrefused
  cases hcompile : compile .mySql ⟨"emp", []⟩ q with
  | ok sql =>
    rw [hcompile] at hverdict
    cases hverdict
  | error f =>
    rw [hcompile] at hverdict
    exact ⟨q, hq, f, hcompile, Option.some.inj hverdict⟩

end Sql

end ChartQuery
