import ChartQuery.Connection
import ChartQuery.Proofs.Numerals

/-!
# Connection strings carry their values

A database client takes parameters with spaces between them, each a key and a value with an equals
sign between.  A value that begins with a quote runs to the next quote, any other value to the next
space; a backslash in either takes the meaning of the character behind it away.

Free text is written between quotes with its quotes and backslashes escaped, so it is read up to the
quote behind it, whatever is in it, and cannot end early to begin another parameter.
-/

namespace ChartQuery.Connection

/-! ## Reading -/

/-- Where a reader stands: in front of a key, in a key, behind its equals sign, in a value, behind a
backslash in a value, or behind the quote that ends a value.  Of a value it knows whether it is
quoted, the key, and its characters. -/
inductive Place
  | between
  | key (chars : List Char)
  | equals (key : List Char)
  | within (isQuoted : Bool) (key chars : List Char)
  | escaped (isQuoted : Bool) (key chars : List Char)
  | closed

/-- A reader with the parameters that are complete. -/
structure Reader where
  read : List (String × String)
  place : Place

/-- The parameters of a reader with one more. -/
def Reader.push (r : Reader) (key chars : List Char) : List (String × String) :=
  r.read ++ [(String.ofList key, String.ofList chars)]

/-- What a reader does at a character.  There is none where a key or an equals sign has a space
behind it, and where the quote that ends a value has anything else behind it. -/
def Reader.step (r : Reader) (c : Char) : Option Reader :=
  match r.place with
  | .between => if c = ' ' then some r else some ⟨r.read, .key [c]⟩
  | .key k =>
    if c = '=' then some ⟨r.read, .equals k⟩
    else if c = ' ' then none
    else some ⟨r.read, .key (k ++ [c])⟩
  | .equals k =>
    if c = '\x27' then some ⟨r.read, .within true k []⟩
    else if c = '\\' then some ⟨r.read, .escaped false k []⟩
    else if c = ' ' then none
    else some ⟨r.read, .within false k [c]⟩
  | .within isQuoted k s =>
    if c = '\\' then some ⟨r.read, .escaped isQuoted k s⟩
    else if isQuoted && c = '\x27' then some ⟨r.push k s, .closed⟩
    else if !isQuoted && c = ' ' then some ⟨r.push k s, .between⟩
    else some ⟨r.read, .within isQuoted k (s ++ [c])⟩
  | .escaped isQuoted k s => some ⟨r.read, .within isQuoted k (s ++ [c])⟩
  | .closed => if c = ' ' then some ⟨r.read, .between⟩ else none

/-- The parameters of a reader that has come to its end, which must be no place within a key or a
quoted value. -/
def Reader.finish (r : Reader) : Option (List (String × String)) :=
  match r.place with
  | .between | .closed => some r.read
  | .within false k s => some (r.push k s)
  | _ => none

/-- A reader that goes through characters. -/
def Reader.run (r : Reader) (cs : List Char) : Option Reader := cs.foldlM step r

/-- The parameters that a text consists of, each with its key and its value. -/
def readParameters? (s : String) : Option (List (String × String)) :=
  (Reader.run ⟨[], .between⟩ s.toList).bind Reader.finish

variable {read : List (String × String)} {k s t : List Char}

/-- Going through one text and then through another. -/
lemma Reader.run_append (r : Reader) (cs ds : List Char) :
    r.run (cs ++ ds) = (r.run cs).bind fun r' => r'.run ds :=
  List.foldlM_append

/-- Going through the first character. -/
lemma Reader.run_cons (r : Reader) (c : Char) (cs : List Char) :
    r.run (c :: cs) = (r.step c).bind fun r' => r'.run cs :=
  List.foldlM_cons

/-! ## Parameters -/

/-- The text of a value. -/
def ParameterValue.text : ParameterValue → String
  | quoted s => s
  | plain s => s

/-- A parameter as it is written. -/
def printParameter (p : String × ParameterValue) : String := p.1 ++ "=" ++ p.2.print

/-- Whether a value may be written: plain text must have something in it, and no spaces, backslashes
and quotes. -/
def ParameterValue.IsProper : ParameterValue → Prop
  | quoted _ => True
  | plain s => s ≠ "" ∧ ∀ c ∈ s.toList, c ≠ ' ' ∧ c ≠ '\\' ∧ c ≠ '\x27'

/-- Whether a parameter may be written: its key must have something in it, and no spaces and equals
signs. -/
def IsProper (p : String × ParameterValue) : Prop :=
  (p.1 ≠ "" ∧ ∀ c ∈ p.1.toList, c ≠ ' ' ∧ c ≠ '=') ∧ p.2.IsProper

/-- Characters are collected one after another, each read as it is written. -/
lemma run_flatMap {place : List Char → Place} {write : Char → List Char}
    (h : ∀ c ∈ t, ∀ s, Reader.run ⟨read, place s⟩ (write c) = some ⟨read, place (s ++ [c])⟩)
    (s : List Char) :
    Reader.run ⟨read, place s⟩ (t.flatMap write) = some ⟨read, place (s ++ t)⟩ := by
  induction t generalizing s with
  | nil => simp [Reader.run]
  | cons c t ih =>
    obtain ⟨hc, ht⟩ := List.forall_mem_cons.1 h
    rw [List.flatMap_cons, Reader.run_append, hc, Option.bind_some, ih ht, List.append_assoc,
      List.singleton_append]

/-- Characters that stand for themselves are collected one after another. -/
lemma run_chars {place : List Char → Place}
    (h : ∀ c ∈ t, ∀ s, Reader.step ⟨read, place s⟩ c = some ⟨read, place (s ++ [c])⟩)
    (s : List Char) : Reader.run ⟨read, place s⟩ t = some ⟨read, place (s ++ t)⟩ := by
  have hsingle : ∀ c ∈ t, ∀ s,
      Reader.run ⟨read, place s⟩ [c] = some ⟨read, place (s ++ [c])⟩ := by
    intro c hc s
    rw [Reader.run_cons, h c hc]
    rfl
  rw [← run_flatMap hsingle, List.flatMap_singleton']

/-- A key is read up to the equals sign behind it. -/
lemma run_key (hk : k ≠ []) (h : ∀ c ∈ k, c ≠ ' ' ∧ c ≠ '=') :
    Reader.run ⟨read, .between⟩ (k ++ ['=']) = some ⟨read, .equals k⟩ := by
  obtain ⟨c, k, rfl⟩ := List.exists_cons_of_ne_nil hk
  obtain ⟨hc, hk⟩ := List.forall_mem_cons.1 h
  have hfirst : Reader.step ⟨read, .between⟩ c = some ⟨read, .key [c]⟩ := by
    simp [Reader.step, hc]
  have hrest : Reader.run ⟨read, .key [c]⟩ k = some ⟨read, .key (c :: k)⟩ := by
    refine run_chars (fun d hd s => ?_) [c]
    simp [Reader.step, hk d hd]
  rw [List.cons_append, Reader.run_cons, hfirst, Option.bind_some, Reader.run_append, hrest]
  rfl

/-- A character as it stands between quotes. -/
def escape (c : Char) : List Char := if c = '\\' ∨ c = '\x27' then ['\\', c] else [c]

/-- If backslashes are escaped and quotes after them, every character is escaped once.  In the other
order the backslashes that are put before quotes would be escaped as well. -/
lemma toList_escapeEach (s : String) :
    (escapeEach '\x27' (escapeEach '\\' s)).toList = s.toList.flatMap escape := by
  rw [escapeEach, escapeEach, Text.replaceEach, Text.replaceEach, String.toList_ofList,
    String.toList_ofList, List.flatMap_assoc]
  refine List.flatMap_congr fun c _ => ?_
  by_cases hbackslash : c = '\\'
  · subst hbackslash
    rfl
  · by_cases hquote : c = '\x27' <;> simp [escape, hbackslash, hquote]

/-- Free text between quotes is read up to the quote behind it, whatever it is. -/
lemma run_quoted (s : List Char) :
    Reader.run ⟨read, .equals k⟩ ('\x27' :: (s.flatMap escape ++ ['\x27'])) =
      some ⟨read ++ [(String.ofList k, String.ofList s)], .closed⟩ := by
  have hfirst : Reader.step ⟨read, .equals k⟩ '\x27' = some ⟨read, .within true k []⟩ := rfl
  have hrest : Reader.run ⟨read, .within true k []⟩ (s.flatMap escape) =
      some ⟨read, .within true k s⟩ := by
    refine run_flatMap (fun c _ s => ?_) []
    -- An escaped character is read in two steps, and any other one in a single step.
    unfold escape
    split
    · simp [Reader.run, Reader.step]
    · next hc =>
      obtain ⟨hbackslash, hquote⟩ := not_or.1 hc
      simp [Reader.run, Reader.step, hbackslash, hquote]
  rw [Reader.run_cons, hfirst, Option.bind_some, Reader.run_append, hrest]
  rfl

/-- Plain text is read up to what is behind it. -/
lemma run_plain (hs : s ≠ []) (h : ∀ c ∈ s, c ≠ ' ' ∧ c ≠ '\\' ∧ c ≠ '\x27') :
    Reader.run ⟨read, .equals k⟩ s = some ⟨read, .within false k s⟩ := by
  obtain ⟨c, s, rfl⟩ := List.exists_cons_of_ne_nil hs
  obtain ⟨hc, hs⟩ := List.forall_mem_cons.1 h
  have hfirst : Reader.step ⟨read, .equals k⟩ c = some ⟨read, .within false k [c]⟩ := by
    simp [Reader.step, hc]
  rw [Reader.run_cons, hfirst, Option.bind_some]
  refine run_chars (fun d hd s => ?_) [c]
  simp [Reader.step, hs d hd]

/-- A parameter is read, if it is the last one or another one follows. -/
lemma exists_run_printParameter {p : String × ParameterValue} (h : IsProper p)
    (read : List (String × String)) : ∃ r,
      Reader.run ⟨read, .between⟩ (printParameter p).toList = some r ∧
      r.finish = some (read ++ [(p.1, p.2.text)]) ∧
      r.step ' ' = some ⟨read ++ [(p.1, p.2.text)], .between⟩ := by
  obtain ⟨key, value⟩ := p
  obtain ⟨⟨hne, hchars⟩, hvalue⟩ := h
  have hkey : Reader.run ⟨read, .between⟩ (key ++ "=").toList =
      some ⟨read, .equals key.toList⟩ := by
    rw [String.toList_append]
    exact run_key (fun hnil => hne (String.toList_injective hnil)) hchars
  have hparameter (r : Reader) (hr : Reader.run ⟨read, .equals key.toList⟩ value.print.toList =
      some r) : Reader.run ⟨read, .between⟩ (printParameter (key, value)).toList = some r := by
    rw [printParameter, String.toList_append, Reader.run_append, hkey, Option.bind_some, hr]
  cases value with
  | quoted s =>
    refine ⟨⟨read ++ [(key, s)], .closed⟩, hparameter _ ?_, rfl, rfl⟩
    have hprint : (ParameterValue.quoted s).print.toList =
        '\x27' :: (s.toList.flatMap escape ++ ['\x27']) := by
      simp [ParameterValue.print, toList_escapeEach]
    rw [hprint, run_quoted, String.ofList_toList, String.ofList_toList]
  | plain s =>
    obtain ⟨hne, hchars⟩ := hvalue
    refine ⟨⟨read, .within false key.toList s.toList⟩, hparameter _ ?_, ?_, ?_⟩
    · exact run_plain (fun hnil => hne (String.toList_injective hnil)) hchars
    · simp [Reader.finish, Reader.push, ParameterValue.text]
    · simp [Reader.step, Reader.push, ParameterValue.text]

/-- **Parameters are read back**, each with its key and the text of its value. -/
theorem readParameters?_intercalate {ps : List (String × ParameterValue)}
    (h : ∀ p ∈ ps, IsProper p) : readParameters? (" ".intercalate (ps.map printParameter)) =
      some (ps.map fun p => (p.1, p.2.text)) := by
  have hrun (read : List (String × String)) : (Reader.run ⟨read, .between⟩
      (" ".intercalate (ps.map printParameter)).toList).bind Reader.finish =
        some (read ++ ps.map fun p => (p.1, p.2.text)) := by
    induction ps generalizing read with
    | nil => simp [Reader.run, Reader.finish]
    | cons p ps ih =>
      obtain ⟨hp, hps⟩ := List.forall_mem_cons.1 h
      obtain ⟨r, hrun, hfinish, hstep⟩ := exists_run_printParameter hp read
      cases ps with
      | nil =>
        rw [List.map_singleton, String.intercalate_singleton, hrun, Option.bind_some, hfinish,
          List.map_singleton]
      | cons q ps =>
        have hspace : Reader.run r " ".toList = some ⟨read ++ [(p.1, p.2.text)], .between⟩ := by
          change Reader.run r [' '] = _
          rw [Reader.run_cons, hstep]
          rfl
        rw [List.map_cons, List.map_cons, String.intercalate_cons_cons, ← List.map_cons,
          String.toList_append, String.toList_append, List.append_assoc, Reader.run_append, hrun,
          Option.bind_some, Reader.run_append, hspace, Option.bind_some, ih hps, List.append_assoc,
          List.singleton_append]
        rfl
  exact hrun []

/-! ## Connections -/

/-- The parameters of a connection may be written. -/
lemma isProper_parameters (c : Connection) : ∀ p ∈ c.parameters, IsProper p := by
  have hport : (ParameterValue.plain (toString c.effectivePort)).IsProper := by
    refine ⟨fun hnil => toList_toString_ne_nil c.effectivePort (by rw [hnil]; rfl), ?_⟩
    intro d hd
    have hdigit : d.isDigit = true := isDigit_of_mem_toString hd
    refine ⟨?_, ?_, ?_⟩ <;> rintro rfl <;> exact absurd hdigit (by decide)
  have hmode : (ParameterValue.plain c.sslMode.name).IsProper := by
    cases c.sslMode <;> exact ⟨by decide, by simp [SslMode.name]⟩
  have htimeout : (ParameterValue.plain "10").IsProper := ⟨by decide, by simp⟩
  have hkeys : ∀ key ∈ c.parameters.map Prod.fst,
      key ≠ "" ∧ ∀ d ∈ key.toList, d ≠ ' ' ∧ d ≠ '=' := by
    simp [parameters]
  have hvalues : ∀ value ∈ c.parameters.map Prod.snd, value.IsProper := by
    simp only [parameters, List.map_cons, List.map_nil, List.forall_mem_cons]
    exact ⟨trivial, hport, trivial, trivial, trivial, hmode, htimeout, fun value hv => nomatch hv⟩
  intro p hp
  exact ⟨hkeys _ (List.mem_map_of_mem hp), hvalues _ (List.mem_map_of_mem hp)⟩

/-- **Connection strings carry their values.**  Whatever the settings are, a client that takes the
connection string reads seven parameters, each key once, and as the values of server, database, user
and password the very texts of the settings. -/
theorem readParameters?_connectionString (c : Connection) :
    readParameters? c.connectionString =
      some [("host", c.server), ("port", toString c.effectivePort), ("dbname", c.database),
        ("user", c.user), ("password", c.password), ("sslmode", c.sslMode.name),
        ("connect_timeout", "10")] :=
  readParameters?_intercalate (isProper_parameters c)

/-- A password that looks like the end of its own value and another user. -/
example : readParameters? { default with password := "a\\' user='root" }.connectionString =
    some [("host", "localhost"), ("port", "5432"), ("dbname", ""), ("user", ""),
      ("password", "a\\' user='root"), ("sslmode", "prefer"), ("connect_timeout", "10")] := by
  decide +kernel

end ChartQuery.Connection
