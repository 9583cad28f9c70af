import ChartQuery.Gateway.Request
import ChartQuery.Proofs.Encodings
import ChartQuery.Proofs.Splitting

/-!
# Requests arrive as they were sent

A client sends a query and a list of entries, each a key and a value with a colon between them, and
percent codes both.  The parts of a query string are told apart by the sign `&` before anything is
decoded, and the entries by semicolons and colons afterwards.  So the values may have any signs in
them but semicolons: what a client writes has no sign `&`, and decoding gives back what was meant.

The first part says how clients write texts, and that these are decoded.  The second part follows
the entries: each entry changes the field that its key stands for and no other, so that in the end
every field has the value that was sent for it.
-/

namespace ChartQuery

/-! ## Texts -/

namespace Percent

/-- Whether a character is the hexadecimal digit of a number, letters in either case. -/
def IsHexDigit (n : ℕ) (c : Char) : Prop := c = Text.hexDigit n ∨ c = Text.hexDigitUpper n

/-- `Sent bs cs`: a client may write the bytes `bs` as the characters `cs`.  ASCII letters, digits,
points, underscores and hyphens stand for themselves, all other bytes are written in digits, and a
space may be written as a plus sign. -/
inductive Sent : List UInt8 → List Char → Prop
  | nil : Sent [] []
  | safe {b : UInt8} {bs : List UInt8} {cs : List Char} : isSafe b = true → Sent bs cs →
      Sent (b :: bs) (Char.ofNat b.toNat :: cs)
  | digits {b : UInt8} {bs : List UInt8} {h l : Char} {cs : List Char} : isSafe b = false →
      IsHexDigit (b.toNat / 16) h → IsHexDigit (b.toNat % 16) l → Sent bs cs →
      Sent (b :: bs) ('%' :: h :: l :: cs)
  | space {bs : List UInt8} {cs : List Char} : Sent bs cs → Sent (0x20 :: bs) ('+' :: cs)

/-- Whether a client may write a text as another text. -/
def SentAs (s t : String) : Prop := Sent (Utf8.encode s.toList) t.toList

variable {n : ℕ} {b : UInt8} {bs : List UInt8} {c : Char} {cs : List Char} {s t : String}

/-- A hexadecimal digit is read as its number, and is a letter or digit. -/
lemma IsHexDigit.spec (h : IsHexDigit n c) (hn : n < 16) :
    Text.hexValue? c = some n ∧ c.isAlphanum = true := by
  have hsmall : ∀ n < 16, (Text.hexDigit n).isAlphanum = true := by decide
  have hlarge : ∀ n < 16, (Text.hexDigitUpper n).isAlphanum = true := by decide
  rcases h with rfl | rfl
  · exact ⟨Text.hexValue?_hexDigit n hn, hsmall n hn⟩
  · exact ⟨Text.hexValue?_hexDigitUpper n hn, hlarge n hn⟩

/-- Clients write with ASCII letters and digits, and with five signs. -/
lemma Sent.of_mem (h : Sent bs cs) (hc : c ∈ cs) :
    c.isAlphanum = true ∨ c ∈ ['.', '_', '-', '%', '+'] := by
  induction h with
  | nil => cases hc
  | safe hsafe _ ih =>
    rcases List.mem_cons.1 hc with rfl | hc
    · exact (isSafe_iff.1 hsafe).2.imp_right fun hmem => List.mem_append_left ['%', '+'] hmem
    · exact ih hc
  | @digits b _ _ _ _ _ hhigh hlow _ ih =>
    have hlt : b.toNat < 256 := b.toNat_lt
    rcases List.mem_cons.1 hc with rfl | hc
    · exact .inr (by decide)
    rcases List.mem_cons.1 hc with rfl | hc
    · exact .inl (hhigh.spec (by omega)).2
    rcases List.mem_cons.1 hc with rfl | hc
    · exact .inl (hlow.spec (by omega)).2
    · exact ih hc
  | space _ ih =>
    rcases List.mem_cons.1 hc with rfl | hc
    · exact .inr (by decide)
    · exact ih hc

/-- Other characters do not occur in what clients write. -/
lemma SentAs.notMem (h : SentAs s t) (halnum : c.isAlphanum = false)
    (hsign : c ∉ ['.', '_', '-', '%', '+']) : c ∉ t.toList := fun hmem =>
  (h.of_mem hmem).elim (fun h => Bool.false_ne_true (halnum.symm.trans h)) hsign

/-- The bytes that were sent are found again, once plus signs are taken for spaces. -/
lemma Sent.bytes_eq (h : Sent bs cs) :
    bytes (cs.map fun c => if c = '+' then ' ' else c) = bs := by
  have hplus : ∀ c : Char, c.isAlphanum = true → c ≠ '+' := by
    rintro c hc rfl
    exact absurd hc (by decide)
  induction h with
  | nil => rfl
  | @safe b _ _ hsafe _ ih =>
    have hescape : escape b = [Char.ofNat b.toNat] := if_pos hsafe
    rw [List.map_cons, if_neg (ne_of_isSafe hsafe (by decide) (by decide)), ← List.singleton_append,
      ← hescape, bytes_escape, ih]
  | @digits b _ h l _ _ hhigh hlow _ ih =>
    have hlt : b.toNat < 256 := b.toNat_lt
    obtain ⟨hh, hhalnum⟩ := hhigh.spec (by omega)
    obtain ⟨hl, hlalnum⟩ := hlow.spec (by omega)
    rw [List.map_cons, List.map_cons, List.map_cons, if_neg (by decide), if_neg (hplus h hhalnum),
      if_neg (hplus l hlalnum), bytes_digits hh hl, ih]
  | space _ ih =>
    rw [List.map_cons, if_pos rfl, bytes_cons (by decide), ih]
    rfl

/-- A percent coded text is written as a client may write it. -/
lemma sentAs_encode (s : String) : SentAs s (encode s) := by
  have hbytes : ∀ bs : List UInt8, Sent bs (bs.flatMap escape) := by
    intro bs
    induction bs with
    | nil => exact .nil
    | cons b bs ih =>
      rw [List.flatMap_cons, escape]
      split
      · next hsafe => exact .safe hsafe ih
      · next hsafe => exact .digits (by simpa using hsafe) (.inr rfl) (.inr rfl) ih
  rw [SentAs, encode, String.toList_ofList]
  exact hbytes _

/-- **What clients write is decoded.** -/
theorem SentAs.decodeComponent_eq (h : SentAs s t) : decodeComponent t = s := by
  rw [decodeComponent, decode, String.toList_ofList, h.bytes_eq, Utf8.decode_encode,
    String.ofList_toList]

end Percent

/-! ## Requests -/

namespace Gateway.Request

/-- What a request can ask for besides its query. -/
inductive Field
  | id
  | version
  | out
  | signature
  | handler
  | fileName
  deriving DecidableEq, Repr

/-- The key of a field. -/
def Field.key : Field → String
  | id => "reqId"
  | version => "version"
  | out => "out"
  | signature => "sig"
  | handler => "responseHandler"
  | fileName => "outFileName"

/-- The value of a field. -/
def get (r : Request) : Field → String
  | .id => r.id
  | .version => r.version
  | .out => r.out
  | .signature => r.signature
  | .handler => r.handler
  | .fileName => r.fileName

/-- An entry that is sent: a value for a field, or one for another key. -/
inductive Entry
  | field (f : Field) (value : String)
  | other (key value : String)

/-- An entry as it is sent. -/
def Entry.text : Entry → String
  | field f value => f.key ++ ":" ++ value
  | other key value => key ++ ":" ++ value

/-- The field that an entry has a value for. -/
def Entry.field? : Entry → Option Field
  | field f _ => some f
  | other _ _ => none

/-- Whether an entry can be told from what it is sent as: there is no semicolon in it, and if it is
for another key, no value for a field is sent in the same way. -/
def Entry.IsPlain : Entry → Prop
  | field _ value => ';' ∉ value.toList
  | other key value => ';' ∉ key.toList ∧ ';' ∉ value.toList ∧
      ∀ f v, key ++ ":" ++ value ≠ (field f v).text

variable {r : Request} {e : Entry} {es : List Entry} {f g : Field} {key value q s t : String}

/-- The keys of fields have no signs in them. -/
lemma notMem_key (f : Field) : ':' ∉ f.key.toList ∧ ';' ∉ f.key.toList := by
  cases f <;> decide

/-- An entry for another key, if that is no key of a field and has no signs in it. -/
lemma isPlain_other (hkey : ∀ f : Field, key ≠ f.key) (hcolon : ':' ∉ key.toList)
    (hsemicolon : ';' ∉ key.toList) (hvalue : ';' ∉ value.toList) :
    (Entry.other key value).IsPlain := by
  refine ⟨hsemicolon, hvalue, fun f v heq => hkey f ?_⟩
  have hcut : Text.cut? ':' (key ++ ":" ++ value) = some (key, value) :=
    Text.cut?_append hcolon value
  have hcut' : Text.cut? ':' (Entry.field f v).text = some (f.key, v) :=
    Text.cut?_append (notMem_key f).1 v
  rw [← heq, hcut] at hcut'
  exact (Prod.mk.inj (Option.some.inj hcut')).1

/-- There is no semicolon in what an entry is sent as. -/
lemma Entry.IsPlain.semicolon_notMem (h : e.IsPlain) : ';' ∉ e.text.toList := by
  cases e with
  | field f value =>
    have hvalue : ';' ∉ value.toList := h
    simp [text, (notMem_key f).2, hvalue]
  | other key value => simp [text, h.1, h.2.1]

/-! ### One entry -/

/-- A request has the value that was set last, and the other values that it had. -/
lemma get_set (r : Request) (f g : Field) (value : String) :
    (r.set f.key value).get g = if g = f then value else r.get g := by
  cases f <;> cases g <;> rfl

/-- The query may be set before a value or after it. -/
lemma set_withQuery (r : Request) (q key value : String) :
    { r with query := q }.set key value = { r.set key value with query := q } := by
  unfold set
  split <;> rfl

/-- Only the keys of fields count. -/
lemma set_of_ne (h : ∀ f : Field, key ≠ f.key) : r.set key value = r := by
  unfold set
  split
  · exact absurd rfl (h .id)
  · exact absurd rfl (h .version)
  · exact absurd rfl (h .out)
  · exact absurd rfl (h .signature)
  · exact absurd rfl (h .handler)
  · exact absurd rfl (h .fileName)
  · rfl

/-- An entry for a field sets its value. -/
lemma addPair_field (r : Request) (f : Field) (value : String) :
    r.addPair (Entry.field f value).text = r.set f.key value := by
  have hcut : Text.cut? ':' (Entry.field f value).text = some (f.key, value) :=
    Text.cut?_append (notMem_key f).1 value
  rw [addPair, hcut]

/-- An entry for another key changes nothing. -/
lemma addPair_other (h : (Entry.other key value).IsPlain) :
    r.addPair (Entry.other key value).text = r := by
  rw [addPair]
  split
  · next k v hcut =>
    refine set_of_ne fun f hkey => h.2.2 f v ?_
    rw [hkey] at hcut
    exact Text.eq_of_cut?_eq_some hcut
  · rfl

/-- The query may be set before an entry is read or after it. -/
lemma addPair_withQuery (r : Request) (q pair : String) :
    { r with query := q }.addPair pair = { r.addPair pair with query := q } := by
  unfold addPair
  split
  · exact set_withQuery r q _ _
  · rfl

/-- The field of an entry has the value of the entry. -/
lemma get_addPair_field (r : Request) (f : Field) (value : String) :
    (r.addPair (Entry.field f value).text).get f = value := by
  rw [addPair_field, get_set, if_pos rfl]

/-- The other fields stay when an entry is read. -/
lemma get_addPair_of_ne (h : e.IsPlain) (hf : e.field? ≠ some f) :
    (r.addPair e.text).get f = r.get f := by
  cases e with
  | field g value =>
    have hne : f ≠ g := fun heq => hf (congrArg some heq.symm)
    rw [addPair_field, get_set, if_neg hne]
  | other key value => rw [addPair_other h]

/-! ### All entries -/

/-- The query may be set before a list of entries is read or after it. -/
lemma addPairs_withQuery (r : Request) (q pairs : String) :
    { r with query := q }.addPairs pairs = { r.addPairs pairs with query := q } := by
  have hfoldl (pairs : List String) (r : Request) :
      pairs.foldl addPair { r with query := q } = { pairs.foldl addPair r with query := q } := by
    induction pairs generalizing r with
    | nil => rfl
    | cons pair pairs ih => rw [List.foldl_cons, List.foldl_cons, addPair_withQuery, ih]
  exact hfoldl _ r

/-- A field stays when no entry is for it. -/
lemma get_foldl_of_ne (hplain : ∀ e ∈ es, e.IsPlain) (hf : ∀ e ∈ es, e.field? ≠ some f) :
    ((es.map Entry.text).foldl addPair r).get f = r.get f := by
  induction es generalizing r with
  | nil => rfl
  | cons e es ih =>
    obtain ⟨he, hes⟩ := List.forall_mem_cons.1 hplain
    obtain ⟨hne, hrest⟩ := List.forall_mem_cons.1 hf
    rw [List.map_cons, List.foldl_cons, ih hes hrest, get_addPair_of_ne he hne]

/-- A field has the value that there is an entry for, if there is only one. -/
lemma get_foldl_of_mem (hplain : ∀ e ∈ es, e.IsPlain)
    (hnodup : (es.filterMap Entry.field?).Nodup) (hmem : .field f value ∈ es) :
    ((es.map Entry.text).foldl addPair r).get f = value := by
  induction es generalizing r with
  | nil => cases hmem
  | cons e es ih =>
    obtain ⟨-, hes⟩ := List.forall_mem_cons.1 hplain
    rw [List.map_cons, List.foldl_cons]
    rcases List.mem_cons.1 hmem with rfl | hmem
    · -- The entry is the first one, and none of the others is for its field.
      have hfirst : (Entry.field f value).field? = some f := rfl
      rw [List.filterMap_cons_some hfirst, List.nodup_cons] at hnodup
      have hrest : ∀ e ∈ es, e.field? ≠ some f := fun e he hfield =>
        hnodup.1 (List.mem_filterMap.2 ⟨e, he, hfield⟩)
      rw [get_foldl_of_ne hes hrest, get_addPair_field]
    · exact ih hes (hnodup.sublist ((List.sublist_cons_self e es).filterMap _)) hmem

/-- The entries of a list are read one after another. -/
lemma addPairs_texts (r : Request) (h : ∀ e ∈ es, e.IsPlain) :
    r.addPairs (";".intercalate (es.map Entry.text)) = (es.map Entry.text).foldl addPair r := by
  have hsemicolon : ∀ pair ∈ es.map Entry.text, ';' ∉ pair.toList :=
    List.forall_mem_map.2 fun e he => (h e he).semicolon_notMem
  cases es with
  | nil => rfl
  | cons e es =>
    have hsplit : Text.split ';' (";".intercalate ((e :: es).map Entry.text)) =
        (e :: es).map Entry.text := Text.split_intercalate hsemicolon
    rw [addPairs, hsplit]

/-! ### Parts -/

/-- A part is told by its name. -/
lemma part?_append (name s : String) : part? name (name ++ "=" ++ s) = some s := by
  rw [part?, Text.isPrefixOf?_append, Option.map_some, String.ofList_toList]

/-- The list of entries is decoded and read. -/
lemma addPart_entries (r : Request) (h : Percent.SentAs s t) :
    r.addPart ("tqx=" ++ t) = r.addPairs s := by
  have hpart : part? "tqx" ("tqx=" ++ t) = some t := part?_append "tqx" t
  rw [addPart, hpart]
  exact congrArg r.addPairs h.decodeComponent_eq

/-- The query is decoded. -/
lemma addPart_query (r : Request) (h : Percent.SentAs s t) :
    r.addPart ("tq=" ++ t) = { r with query := s } := by
  have hentries : part? "tqx" ("tq=" ++ t) = none := by
    simp [part?, List.isPrefixOf?]
  have hpart : part? "tq" ("tq=" ++ t) = some t := part?_append "tq" t
  rw [addPart, hentries, hpart]
  exact congrArg (fun query => { r with query := query }) h.decodeComponent_eq

/-- A query string of two parts. -/
lemma parse_intercalate {x y : String} (hx : '&' ∉ x.toList) (hy : '&' ∉ y.toList) :
    parse ("&".intercalate [x, y]) = (empty.addPart x).addPart y := by
  have hsplit : Text.split '&' ("&".intercalate [x, y]) = [x, y] :=
    Text.split_intercalate (by simp [hx, hy])
  rw [parse, hsplit]
  rfl

/-- **Requests arrive as they were sent.**  Whatever the query is, and whatever values are sent for
fields, no field twice and no value with a semicolon, in whatever order and with whatever entries
for other keys among them: however a client writes the query and the list of entries, and in
whichever order it sends the two, the request has that query, every field that a value was sent for
has this value, and all other fields are empty. -/
theorem parse_sent {query entries : String} {parts : List String}
    (hplain : ∀ e ∈ es, e.IsPlain) (hnodup : (es.filterMap Entry.field?).Nodup)
    (hquery : Percent.SentAs q query)
    (hentries : Percent.SentAs (";".intercalate (es.map Entry.text)) entries)
    (hparts : parts = ["tq=" ++ query, "tqx=" ++ entries] ∨
      parts = ["tqx=" ++ entries, "tq=" ++ query]) :
    let r := parse ("&".intercalate parts)
    r.query = q ∧ ∀ f, (∀ value, .field f value ∈ es → r.get f = value) ∧
      ((∀ value, .field f value ∉ es) → r.get f = "") := by
  have hx : '&' ∉ ("tq=" ++ query).toList := by
    simp [hquery.notMem (c := '&') (by decide) (by decide)]
  have hy : '&' ∉ ("tqx=" ++ entries).toList := by
    simp [hentries.notMem (c := '&') (by decide) (by decide)]
  have hparse : parse ("&".intercalate parts) =
      { (es.map Entry.text).foldl addPair empty with query := q } := by
    rw [← addPairs_texts empty hplain]
    rcases hparts with rfl | rfl
    · rw [parse_intercalate hx hy, addPart_query _ hquery, addPart_entries _ hentries,
        addPairs_withQuery]
    · rw [parse_intercalate hy hx, addPart_entries _ hentries, addPart_query _ hquery]
  have hget : ∀ f, (parse ("&".intercalate parts)).get f =
      ((es.map Entry.text).foldl addPair empty).get f := by
    intro f
    rw [hparse]
    cases f <;> rfl
  intro r
  refine ⟨congrArg Request.query hparse, fun f => ⟨fun value hmem => ?_, fun hnone => ?_⟩⟩
  · rw [hget, get_foldl_of_mem hplain hnodup hmem]
  · have hne : ∀ e ∈ es, e.field? ≠ some f := by
      rintro (⟨g, value⟩ | ⟨key, value⟩) he hfield
      · cases hfield
        exact hnone value he
      · cases hfield
    rw [hget, get_foldl_of_ne hplain hne]
    cases f <;> rfl

/-- A query with a space and a plus sign, in digits of either case, behind a list of entries with
another key among them and with signs in a value. -/
theorem parse_sent_signs :
    let es : List Entry := [.other "lang" "de", .field .fileName "a:b&c.csv", .field .id "7"]
    let entries := "lang%3Ade%3BoutFileName%3Aa%3Ab%26c.csv%3BreqId%3A7"
    let r := parse ("&".intercalate ["tqx=" ++ entries, "tq=" ++ "%c3%A9+%2B"])
    (∀ e ∈ es, e.IsPlain) ∧ (es.filterMap Entry.field?).Nodup ∧
      Percent.SentAs "é +" "%c3%A9+%2B" ∧
      Percent.SentAs (";".intercalate (es.map Entry.text)) entries ∧
      r.query = "é +" ∧ r.get .fileName = "a:b&c.csv" ∧ r.get .id = "7" ∧ r.get .out = "" := by
  intro es entries r
  have hplain : ∀ e ∈ es, e.IsPlain := by
    have hother : (Entry.other "lang" "de").IsPlain :=
      isPlain_other (by intro f; cases f <;> decide) (by decide) (by decide) (by decide)
    have hfile : (Entry.field .fileName "a:b&c.csv").IsPlain := by
      show ';' ∉ "a:b&c.csv".toList
      decide
    have hid : (Entry.field .id "7").IsPlain := by
      show ';' ∉ "7".toList
      decide
    simp [es, hother, hfile, hid]
  have hnodup : (es.filterMap Entry.field?).Nodup := by decide
  have hquery : Percent.SentAs "é +" "%c3%A9+%2B" :=
    .digits (by decide) (.inl (by decide)) (.inl (by decide)) <|
      .digits (by decide) (.inr (by decide)) (.inr (by decide)) <|
        .space <| .digits (by decide) (.inr (by decide)) (.inr (by decide)) .nil
  have hentries : Percent.SentAs (";".intercalate (es.map Entry.text)) entries := by
    have hencode : entries = Percent.encode (";".intercalate (es.map Entry.text)) := by decide
    rw [hencode]
    exact Percent.sentAs_encode _
  obtain ⟨hq, hfields⟩ := parse_sent hplain hnodup hquery hentries (.inr rfl)
  exact ⟨hplain, hnodup, hquery, hentries, hq, (hfields .fileName).1 _ (by simp [es]),
    (hfields .id).1 _ (by simp [es]), (hfields .out).2 (by simp [es])⟩

end Gateway.Request

end ChartQuery
