import ChartQuery.Text.Split
import Mathlib.Data.List.Induction
import Mathlib.Data.List.Infix
import Mathlib.Tactic.Common

/-!
# Fields that are found again

A text that was put together from fields, with a separator between them or behind each of them, is
taken apart into the same fields, as long as none of them has the separator.  There is always one
field more than there are separators.
-/

namespace ChartQuery.Text

variable {sep : Char} {cs : List Char} {s : String} {ss : List String}

/-! ## Lists of characters -/

/-- There is one field more than there are separators. -/
lemma length_fields (sep : Char) (cs : List Char) :
    (fields sep cs).length = cs.count sep + 1 := by
  induction cs with
  | nil => rfl
  | cons c cs ih =>
    unfold fields
    split
    · next h => rw [List.length_cons, ih, h, List.count_cons_self]
    · next h =>
      rw [List.count_cons_of_ne h, ← ih]
      split
      · next hnil => exact absurd hnil (fields_ne_nil sep cs)
      · next hcons => rw [hcons, List.length_cons, List.length_cons]

/-- A text without the separator is its only field. -/
lemma fields_eq_singleton (h : sep ∉ cs) : fields sep cs = [cs] := by
  induction cs with
  | nil => rfl
  | cons c cs ih =>
    rw [List.mem_cons, not_or] at h
    obtain ⟨hne, hrest⟩ := h
    rw [fields, if_neg (Ne.symm hne), ih hrest]

/-- A field ends where the first separator stands. -/
lemma fields_append (h : sep ∉ cs) (ds : List Char) :
    fields sep (cs ++ sep :: ds) = cs :: fields sep ds := by
  induction cs with
  | nil => rw [List.nil_append, fields, if_pos rfl]
  | cons c cs ih =>
    rw [List.mem_cons, not_or] at h
    obtain ⟨hne, hrest⟩ := h
    rw [List.cons_append, fields, if_neg (Ne.symm hne), ih hrest]

/-- Behind a separator at the end there is an empty field. -/
lemma fields_concat (sep : Char) (cs : List Char) :
    fields sep (cs ++ [sep]) = fields sep cs ++ [[]] := by
  induction cs with
  | nil => simp [fields]
  | cons c cs ih =>
    rw [List.cons_append, fields, fields, ih]
    split
    · rfl
    · cases h : fields sep cs with
      | nil => exact absurd h (fields_ne_nil sep cs)
      | cons f fs => rfl

/-- The fields with the separator between them are the text. -/
lemma intercalate_fields (sep : Char) (cs : List Char) :
    [sep].intercalate (fields sep cs) = cs := by
  induction cs with
  | nil => simp [fields]
  | cons c cs ih =>
    obtain ⟨f, fs, hfields⟩ := List.exists_cons_of_ne_nil (fields_ne_nil sep cs)
    rw [hfields] at ih
    rw [fields, hfields]
    split
    · next h => rw [List.intercalate_cons_cons, ih, h, List.nil_append, List.singleton_append]
    · cases fs with
      | nil => simpa using ih
      | cons g gs =>
        rw [List.intercalate_cons_cons] at ih ⊢
        rw [List.cons_append, List.cons_append, ih]

/-! ## Texts -/

/-- The fields with the separator between them are the text. -/
lemma intercalate_split (sep : Char) (s : String) :
    (String.singleton sep).intercalate (split sep s) = s := by
  have hlists : (split sep s).map String.toList = fields sep s.toList := by
    simp [split, Function.comp_def]
  refine String.toList_injective ?_
  rw [String.toList_intercalate, hlists, String.toList_singleton, intercalate_fields]

/-- There is one field more than there are separators. -/
lemma length_split (sep : Char) (s : String) :
    (split sep s).length = s.toList.count sep + 1 := by
  rw [split, List.length_map, length_fields]

/-- A text without the separator is its only field. -/
lemma split_eq_singleton (h : sep ∉ s.toList) : split sep s = [s] := by
  rw [split, fields_eq_singleton h, List.map_singleton, String.ofList_toList]

/-- A field ends where the first separator stands. -/
lemma split_append (h : sep ∉ s.toList) (t : String) :
    split sep (s ++ String.singleton sep ++ t) = s :: split sep t := by
  rw [split, String.toList_append, String.toList_append, String.toList_singleton,
    List.append_assoc, List.singleton_append, fields_append h, List.map_cons,
    String.ofList_toList, split]

/-- Behind a separator at the end there is an empty field. -/
lemma split_concat (sep : Char) (s : String) :
    split sep (s ++ String.singleton sep) = split sep s ++ [""] := by
  rw [split, String.toList_append, String.toList_singleton, fields_concat, List.map_append]
  rfl

/-- Texts that were joined are found again by splitting. -/
lemma split_intercalate (h : ∀ t ∈ s :: ss, sep ∉ t.toList) :
    split sep ((String.singleton sep).intercalate (s :: ss)) = s :: ss := by
  induction ss generalizing s with
  | nil => rw [String.intercalate_singleton, split_eq_singleton (h s List.mem_cons_self)]
  | cons t ts ih =>
    rw [String.intercalate_cons_cons, split_append (h s List.mem_cons_self),
      ih fun u hu => h u (List.mem_cons_of_mem _ hu)]

/-- Texts with a separator behind each are found again by splitting, and an empty text behind the
last separator. -/
lemma split_join (h : ∀ t ∈ ss, sep ∉ t.toList) :
    split sep (String.join (ss.map (· ++ String.singleton sep))) = ss ++ [""] := by
  induction ss with
  | nil => simp [split, fields]
  | cons t ts ih =>
    rw [List.map_cons, String.join_cons, split_append (h t List.mem_cons_self),
      ih fun u hu => h u (List.mem_cons_of_mem _ hu), List.cons_append]

/-- What follows on the beginning of a text. -/
lemma isPrefixOf?_append (s t : String) :
    s.toList.isPrefixOf? (s ++ t).toList = some t.toList :=
  List.isPrefixOf?_eq_some_iff_append_eq.2 String.toList_append.symm

/-- A text is cut at its first separator. -/
lemma cut?_append (h : sep ∉ s.toList) (t : String) :
    cut? sep (s ++ String.singleton sep ++ t) = some (s, t) := by
  have hbefore : ∀ c ∈ s.toList, (c != sep) = true := fun c hc =>
    bne_iff_ne.2 fun heq => h (heq ▸ hc)
  have htext : (s ++ String.singleton sep ++ t).toList = s.toList ++ sep :: t.toList := by
    simp
  rw [cut?, htext, List.dropWhile_append_of_pos hbefore, List.takeWhile_append_of_pos hbefore]
  simp

/-- What a text is cut into, with the separator between, is the text. -/
lemma eq_of_cut?_eq_some {t u : String} (h : cut? sep s = some (t, u)) :
    s = t ++ String.singleton sep ++ u := by
  have hsplit := List.takeWhile_append_dropWhile (p := (· != sep)) (l := s.toList)
  have hhead := List.head?_dropWhile_not (· != sep) s.toList
  unfold cut? at h
  split at h
  · cases h
  · next c rest hrest =>
    obtain ⟨rfl, rfl⟩ := Prod.mk.inj (Option.some.inj h)
    have hc : c = sep := by simpa [hrest] using hhead
    rw [hrest, hc] at hsplit
    refine String.toList_injective (hsplit.symm.trans ?_)
    simp

end ChartQuery.Text
