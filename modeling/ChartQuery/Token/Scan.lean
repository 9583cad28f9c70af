import ChartQuery.Token

/-!
# Scanning a text into tokens

A cursor is a text with the number of characters already read.  One scan skips blanks and reads
the lexeme that begins there; the lexeme tells how many characters it takes, so that nothing is
lost between two tokens.  Scanning a whole text repeats this until the end of the text is reached.
-/

namespace ChartQuery.Token

/-! ### Character classes -/

/-- The characters that may stand between tokens: space, tab, line feed and carriage return. -/
def isLayout (c : Char) : Bool :=
  c == ' ' || c == '\t' || c == '\n' || c == '\r'

/-- The characters of a bare name: ASCII letters and digits, and the underscore. -/
def isNameChar (c : Char) : Bool :=
  c.isAlphanum || c == '_'

/-- The characters of a number: ASCII digits and points, in any order. -/
def isNumberChar (c : Char) : Bool :=
  c.isDigit || c == '.'

/-! ### Lexemes -/

/-- What begins at some character: the kind and text of a token and how many characters it
takes. -/
structure Lexeme where
  kind : Kind
  text : String
  width : Nat
  deriving DecidableEq, Repr

/-- A quoted span runs to the next character equal to the opening one; without such a character
the whole rest of the text is invalid. -/
def quoted (kind : Kind) (quote : Char) (rest : List Char) : Lexeme :=
  let body := rest.takeWhile (· != quote)
  if body.length < rest.length then
    ⟨kind, String.ofList body, body.length + 2⟩
  else
    ⟨.invalid, String.ofList (quote :: rest), rest.length + 1⟩

/-- A number is a longest run of digits and points. -/
def number (first : Char) (rest : List Char) : Lexeme :=
  let more := rest.takeWhile isNumberChar
  ⟨.number, String.ofList (first :: more), more.length + 1⟩

/-- A word is a longest run of name characters.  A reserved word is recognised in any case and
keeps its lower-case spelling; any other word is a name as written. -/
def word (first : Char) (rest : List Char) : Lexeme :=
  let more := rest.takeWhile isNameChar
  let text := String.ofList (first :: more)
  match keyword? text.toLower with
  | some kind => ⟨kind, text.toLower, more.length + 1⟩
  | none => ⟨.identifier, text, more.length + 1⟩

/-- An operator of one character, or an invalid character. -/
def shortOperator (c : Char) : Lexeme :=
  let text := String.ofList [c]
  ⟨(keyword? text).getD .invalid, text, 1⟩

/-- An operator of two characters is preferred to one of a single character. -/
def operator (first : Char) (rest : List Char) : Lexeme :=
  match rest with
  | [] => shortOperator first
  | second :: _ =>
    let text := String.ofList [first, second]
    match keyword? text with
    | some kind => ⟨kind, text, 2⟩
    | none => shortOperator first

/-- The lexeme that begins with `first` when `rest` follows.  Straight quotes of either sort make a
string, back quotes a name. -/
def lexeme (first : Char) (rest : List Char) : Lexeme :=
  if first == '\x27' || first == '\x22' then quoted .string first rest
  else if first == '\x60' then quoted .identifier first rest
  else if isNumberChar first then number first rest
  else if isNameChar first then word first rest
  else operator first rest

/-- A quoted span takes at least its opening quote. -/
theorem quoted_width_pos (kind : Kind) (quote : Char) (rest : List Char) :
    0 < (quoted kind quote rest).width := by
  unfold quoted
  dsimp only
  split <;> simp

/-- A word takes at least its first character. -/
theorem word_width_pos (first : Char) (rest : List Char) : 0 < (word first rest).width := by
  unfold word
  dsimp only
  split <;> simp

/-- An operator takes at least its first character. -/
theorem operator_width_pos (first : Char) (rest : List Char) :
    0 < (operator first rest).width := by
  unfold operator
  split
  · simp [shortOperator]
  · dsimp only
    split <;> simp [shortOperator]

/-- A lexeme takes at least one character. -/
theorem lexeme_width_pos (first : Char) (rest : List Char) : 0 < (lexeme first rest).width := by
  unfold lexeme
  split
  · exact quoted_width_pos ..
  split
  · exact quoted_width_pos ..
  split
  · simp [number]
  split
  · exact word_width_pos ..
  · exact operator_width_pos ..

/-! ### Cursors -/

/-- A text with the number of characters already read. -/
structure Cursor where
  offset : Nat
  rest : List Char
  deriving DecidableEq, Repr

/-- The cursor before the first character of a text. -/
def Cursor.ofString (s : String) : Cursor := ⟨0, s.toList⟩

/-- The cursor after the blanks that follow. -/
def Cursor.skipLayout (c : Cursor) : Cursor :=
  ⟨c.offset + (c.rest.takeWhile isLayout).length, c.rest.dropWhile isLayout⟩

/-- Skipping blanks never lengthens what is left. -/
theorem Cursor.skipLayout_length_le (c : Cursor) :
    c.skipLayout.rest.length ≤ c.rest.length :=
  (List.dropWhile_suffix isLayout).length_le

/-- The next token and the cursor after it.  At the end of the text the token is `endOfText`, one
past the last character, however often it is asked for. -/
def scan (c : Cursor) : Token × Cursor :=
  let c := c.skipLayout
  match c.rest with
  | [] => (⟨c.offset + 1, .endOfText, ""⟩, c)
  | first :: rest =>
    let l := lexeme first rest
    (⟨c.offset + 1, l.kind, l.text⟩, ⟨c.offset + l.width, (first :: rest).drop l.width⟩)

/-- A token other than the end of the text uses up characters. -/
theorem scan_length_lt {c : Cursor} (h : (scan c).1.kind ≠ .endOfText) :
    (scan c).2.rest.length < c.rest.length := by
  have hle := c.skipLayout_length_le
  unfold scan at h ⊢
  cases hr : c.skipLayout.rest with
  | nil => simp [hr] at h
  | cons first rest =>
    have hw := lexeme_width_pos first rest
    simp only [hr, List.length_cons, List.length_drop] at hle ⊢
    omega

/-- The tokens from a cursor on, the last of them the end of the text. -/
def scanAll (c : Cursor) : List Token :=
  if (scan c).1.kind = .endOfText then [(scan c).1]
  else (scan c).1 :: scanAll (scan c).2
termination_by c.rest.length
decreasing_by exact scan_length_lt ‹_›

/-- The tokens of a text, the last of them the end of the text. -/
def tokenize (s : String) : List Token :=
  scanAll (.ofString s)

/-! ### Streams -/

/-- A text that is read one token at a time: the token read last and what follows it. -/
structure Stream where
  current : Token
  ahead : Cursor

/-- The stream of a text of which nothing was read. -/
def Stream.ofString (s : String) : Stream := ⟨.blank, .ofString s⟩

/-- The stream after one more token. -/
def Stream.next (s : Stream) : Stream :=
  let (token, ahead) := scan s.ahead
  ⟨token, ahead⟩

end ChartQuery.Token
