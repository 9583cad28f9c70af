import ChartQuery.Numeric.Numeral
import ChartQuery.Setting
import ChartQuery.Text.Hex
import ChartQuery.Text.Split

/-!
# Settings in TOML

Lines with a key and a value: strings on one line, numbers, truth values and arrays.  Readers take
characters and give what they read together with the characters that are left.
-/

namespace ChartQuery.Setting.Toml

/-! ### Layout -/

/-- Whether a character may stand in a comment or a string: every one but control characters. -/
def isPlain (c : Char) : Bool := c == '\t' || (32 ≤ c.toNat && c.toNat != 127)

/-- The characters without the spaces and tabs in front. -/
def skipBlanks (cs : List Char) : List Char := cs.dropWhile fun c => c == ' ' || c == '\t'

/-- The characters without the comment in front. -/
def skipComment : List Char → List Char
  | '#' :: cs => cs.dropWhile isPlain
  | cs => cs

/-- Reads the end of a line, which may be that of the text. -/
def readLineEnd : List Char → Option (List Char)
  | [] => some []
  | '\n' :: cs => some cs
  | '\r' :: '\n' :: cs => some cs
  | _ => none

/-- The characters without the blanks, line ends and comments in front. -/
def skipLayout : List Char → List Char
  | [] => []
  | '\r' :: '\n' :: cs => skipLayout cs
  | '#' :: cs => inComment cs
  | c :: cs => if c == ' ' || c == '\t' || c == '\n' then skipLayout cs else c :: cs
where
  /-- The same after the beginning of a comment. -/
  inComment : List Char → List Char
    | [] => []
    | '\r' :: '\n' :: cs => skipLayout cs
    | c :: cs => if isPlain c then inComment cs else if c == '\n' then skipLayout cs else c :: cs

/-! ### Strings -/

/-- The character that a letter stands for after a backslash. -/
def escaped? : Char → Option Char
  | '\x22' => some '\x22'
  | '\\' => some '\\'
  | 'b' => some '\x08'
  | 'f' => some '\x0c'
  | 'n' => some '\n'
  | 'r' => some '\r'
  | 't' => some '\t'
  | _ => none

/-- The character of hexadecimal digits, if there is one. -/
def hexChar? (cs : List Char) : Option Char := do
  let n ← cs.foldlM (fun n c => (Text.hexValue? c).map (16 * n + ·)) 0
  if n.isValidChar then some (Char.ofNat n) else none

/-- Reads a string with escapes after its first quote. -/
def readBasic : List Char → Option (List Char × List Char)
  | [] => none
  | '\x22' :: cs => some ([], cs)
  | '\\' :: 'u' :: a :: b :: c :: d :: cs => do
    let x ← hexChar? [a, b, c, d]
    let (xs, cs) ← readBasic cs
    return (x :: xs, cs)
  | '\\' :: 'U' :: a :: b :: c :: d :: e :: f :: g :: h :: cs => do
    let x ← hexChar? [a, b, c, d, e, f, g, h]
    let (xs, cs) ← readBasic cs
    return (x :: xs, cs)
  | '\\' :: c :: cs => do
    let x ← escaped? c
    let (xs, cs) ← readBasic cs
    return (x :: xs, cs)
  | c :: cs => do
    if !isPlain c then none
    let (xs, cs) ← readBasic cs
    return (c :: xs, cs)

/-- Reads a string without escapes after its first quote. -/
def readLiteral (cs : List Char) : Option (List Char × List Char) :=
  let isInside (c : Char) : Bool := isPlain c && c != '\x27'
  match cs.dropWhile isInside with
  | '\x27' :: rest => some (cs.takeWhile isInside, rest)
  | _ => none

/-- Reads a string if there is one. -/
def readString : List Char → Option (String × List Char)
  | '\x22' :: cs => (readBasic cs).map fun (xs, cs) => (String.ofList xs, cs)
  | '\x27' :: cs => (readLiteral cs).map fun (xs, cs) => (String.ofList xs, cs)
  | _ => none

/-! ### Numbers and truth values -/

/-- The digits of a number, between which there may be single underscores. -/
def digits? (isDigit : Char → Bool) (cs : List Char) : Option (List Char) :=
  if (Text.fields '_' cs).all fun f => !f.isEmpty && f.all isDigit then
    some (cs.filter (· != '_'))
  else none

/-- The digits before the point, of which only a lone first one may be zero. -/
def whole? (cs : List Char) : Option (List Char) :=
  if cs.length ≥ 2 ∧ cs.head? = some '0' then none else digits? Char.isDigit cs

/-- The number of digits in a base, if it is below the given bound. -/
def numberBelow? (bound base : Nat) (cs : List Char) : Option Nat := do
  let ds ← digits? (fun c => ((Text.hexValue? c).map fun n => decide (n < base)).getD false) cs
  let n := ds.foldl (fun n c => base * n + (Text.hexValue? c).getD 0) 0
  if n < bound then some n else none

/-- The bound of integers. -/
def integerBound : Nat := Nat.pow 2 63

/-- A sign and what follows on it. -/
def splitSign : List Char → Option Char × List Char
  | '+' :: cs => (some '+', cs)
  | '-' :: cs => (some '-', cs)
  | cs => (none, cs)

/-- The integer that a word is; only natural numbers are told apart. -/
def integer? (word : List Char) : Option Setting :=
  match word with
  | '0' :: 'x' :: cs => (numberBelow? integerBound 16 cs).map .natural
  | '0' :: 'o' :: cs => (numberBelow? integerBound 8 cs).map .natural
  | '0' :: 'b' :: cs => (numberBelow? integerBound 2 cs).map .natural
  | _ =>
    match splitSign word with
    | (some '-', cs) => do
      let n := Numeric.ofDigits (← whole? cs)
      if n ≤ integerBound then some (if n = 0 then .natural 0 else .other) else none
    | (_, cs) => do
      let n := Numeric.ofDigits (← whole? cs)
      if n < integerBound then some (.natural n) else none

/-- The exponent of a word behind its letter: digits after a sign if there is one. -/
def isExponent (cs : List Char) : Bool := (digits? Char.isDigit (splitSign cs).2).isSome

/-- Whether a word without its sign has the form of a number with a fraction or an exponent. -/
def isReal (cs : List Char) : Bool :=
  let isMark (c : Char) : Bool := c == '.' || c == 'e' || c == 'E'
  (whole? (cs.takeWhile (!isMark ·))).isSome &&
    match cs.dropWhile (!isMark ·) with
    | '.' :: rest =>
      let fraction := rest.takeWhile fun c => c != 'e' && c != 'E'
      (digits? Char.isDigit fraction).isSome &&
        match rest.dropWhile fun c => c != 'e' && c != 'E' with
        | [] => true
        | _ :: e => isExponent e
    | _ :: e => isExponent e
    | [] => false

/-- The number with a fraction or an exponent that a word is.  It must not be too large. -/
def real? (word : List Char) : Option Setting :=
  let cs := (splitSign word).2
  if cs = "inf".toList ∨ cs = "nan".toList then some .other
  else if isReal cs then
    match Numeral.binary64? (String.ofList (word.filter (· != '_'))) with
    | some (.infinite false) | none => none
    | some _ => some .other
  else none

/-- The value that a word is. -/
def word? (word : List Char) : Option Setting :=
  if word = "true".toList then some (.flag true)
  else if word = "false".toList then some (.flag false)
  else integer? word <|> real? word

/-- Whether a character may stand in a word. -/
def isWordChar (c : Char) : Bool := c.isAlphanum || c == '_' || c == '+' || c == '-' || c == '.'

/-! ### Values -/

mutual

/-- Reads a value, in so many steps; arrays may be nested to the given depth. -/
def readValue : Nat → Nat → List Char → Option (Setting × List Char)
  | 0, _, _ => none
  | steps + 1, depth, cs =>
    match cs with
    | '\x22' :: _ => (readString cs).map fun (s, cs) => (.text s, cs)
    | '\x27' :: _ => (readString cs).map fun (s, cs) => (.text s, cs)
    | '[' :: cs =>
      match depth with
      | 0 => none
      | depth + 1 => (readItems steps depth cs).map fun (items, cs) => (.list items, cs)
    | cs => (word? (cs.takeWhile isWordChar)).map fun v => (v, cs.dropWhile isWordChar)

/-- Reads the items of an array and the bracket behind them, before which a comma may stand. -/
def readItems : Nat → Nat → List Char → Option (List Setting × List Char)
  | 0, _, _ => none
  | steps + 1, depth, cs =>
    match skipLayout cs with
    | ']' :: cs => some ([], cs)
    | cs => do
      let (item, cs) ← readValue steps depth cs
      match skipLayout cs with
      | ',' :: cs => (readItems steps depth cs).map fun (items, cs) => (item :: items, cs)
      | ']' :: cs => some ([item], cs)
      | _ => none

end

/-- The depth to which arrays may be nested. -/
def maxDepth : Nat := 79

/-! ### Lines -/

/-- Whether a character may stand in a key without quotes. -/
def isKeyChar (c : Char) : Bool := c.isAlphanum || c == '_' || c == '-'

/-- Reads a part of a key. -/
def readKeyPart (cs : List Char) : Option (String × List Char) :=
  match cs with
  | '\x22' :: _ => readString cs
  | '\x27' :: _ => readString cs
  | _ =>
    let key := cs.takeWhile isKeyChar
    if key.isEmpty then none else some (String.ofList key, cs.dropWhile isKeyChar)

/-- Reads a key, whose parts are separated by points, and the equals sign behind it, in so many
steps. -/
def readKey : Nat → List Char → Option (List String × List Char)
  | 0, _ => none
  | steps + 1, cs => do
    let (part, cs) ← readKeyPart (skipBlanks cs)
    match skipBlanks cs with
    | '.' :: cs => (readKey steps cs).map fun (parts, cs) => (part :: parts, cs)
    | '=' :: cs => some ([part], cs)
    | _ => none

/-- Reads the lines of a text, in so many steps. -/
def readLines : Nat → List Char → Option (List (List String × Setting))
  | 0, _ => none
  | steps + 1, cs =>
    match skipLayout cs with
    | [] => some []
    | cs => do
      let (key, cs) ← readKey steps cs
      let (v, cs) ← readValue steps maxDepth (skipBlanks cs)
      let cs ← readLineEnd (skipComment (skipBlanks cs))
      (readLines steps cs).map fun lines => (key, v) :: lines

/-- Whether no two keys are the same, and none goes on where another one has a value. -/
def areApart : List (List String) → Bool
  | [] => true
  | k :: ks => ks.all (fun l => !k.isPrefixOf l && !l.isPrefixOf k) && areApart ks

/-- The setting of a line under the first part of its key. -/
def field : List String × Setting → Option String × Setting
  | ([name], v) => (some name, v)
  | (key, _) => (key.head?, .other)

/-- The fields that a text is; a byte order mark may stand in front. -/
def value? (s : String) : Option Setting := do
  let cs := match s.toList with
    | '\uFEFF' :: cs => cs
    | cs => cs
  let lines ← readLines (2 * s.length + 2) cs
  if areApart (lines.map Prod.fst) then some (.nested (lines.map field)) else none

end ChartQuery.Setting.Toml
