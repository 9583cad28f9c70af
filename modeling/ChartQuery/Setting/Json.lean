import ChartQuery.Numeric.Decimal
import ChartQuery.Setting
import ChartQuery.Text.Hex

/-!
# Settings in JSON

Readers take characters and give what they read together with the characters that are left.
-/

namespace ChartQuery.Setting.Json

/-- The characters without the blanks in front. -/
def skipBlanks (cs : List Char) : List Char :=
  cs.dropWhile fun c => c == ' ' || c == '\t' || c == '\n' || c == '\r'

/-! ### Strings -/

/-- The character that a letter stands for after a backslash. -/
def escaped? : Char → Option Char
  | '\x22' => some '\x22'
  | '\\' => some '\\'
  | '/' => some '/'
  | 'b' => some '\x08'
  | 'f' => some '\x0c'
  | 'n' => some '\n'
  | 'r' => some '\r'
  | 't' => some '\t'
  | _ => none

/-- The number of hexadecimal digits. -/
def hexNumber? (cs : List Char) : Option Nat :=
  cs.foldlM (fun n c => (Text.hexValue? c).map (16 * n + ·)) 0

/-- Reads a string after its first quote.  Each part of a surrogate pair counts for itself. -/
def readString : List Char → Option (List Nat × List Char)
  | [] => none
  | '\x22' :: cs => some ([], cs)
  | '\\' :: 'u' :: a :: b :: c :: d :: cs => do
    let n ← hexNumber? [a, b, c, d]
    let (ns, cs) ← readString cs
    return (n :: ns, cs)
  | '\\' :: c :: cs => do
    let c ← escaped? c
    let (ns, cs) ← readString cs
    return (c.toNat :: ns, cs)
  | c :: cs => do
    if c.toNat < 32 then none
    let (ns, cs) ← readString cs
    return (c.toNat :: ns, cs)

/-- The text of a string, in which the parts of surrogate pairs must stand together. -/
def textOf? : List Nat → Option (List Char)
  | [] => some []
  | [n] => if 0xD800 ≤ n ∧ n < 0xE000 then none else some [Char.ofNat n]
  | m :: n :: ns =>
    if 0xD800 ≤ m ∧ m < 0xDC00 ∧ 0xDC00 ≤ n ∧ n < 0xE000 then
      (textOf? ns).map (Char.ofNat (0x10000 + (m - 0xD800) * 0x400 + (n - 0xDC00)) :: ·)
    else if 0xD800 ≤ m ∧ m < 0xE000 then none
    else (textOf? (n :: ns)).map (Char.ofNat m :: ·)

/-- The setting of a string. -/
def ofString (ns : List Nat) : Setting :=
  match textOf? ns with
  | some cs => .text (String.ofList cs)
  | none => .other

/-! ### Numbers -/

/-- Reads digits, at least one. -/
def readDigits (cs : List Char) : Option (List Char × List Char) :=
  let ds := cs.takeWhile Char.isDigit
  if ds.isEmpty then none else some (ds, cs.dropWhile Char.isDigit)

/-- Reads the digits before the point, of which only a lone one may be zero. -/
def readWhole : List Char → Option (List Char × List Char)
  | '0' :: cs => some (['0'], cs)
  | cs => readDigits cs

/-- Reads the digits behind the point if there is one. -/
def readFraction : List Char → Option (Bool × List Char)
  | '.' :: cs => (readDigits cs).map fun (_, cs) => (true, cs)
  | cs => some (false, cs)

/-- The characters without a sign in front. -/
def skipSign : List Char → List Char
  | '+' :: cs => cs
  | '-' :: cs => cs
  | cs => cs

/-- Reads an exponent if there is one. -/
def readExponent : List Char → Option (Bool × List Char)
  | 'e' :: cs => (readDigits (skipSign cs)).map fun (_, cs) => (true, cs)
  | 'E' :: cs => (readDigits (skipSign cs)).map fun (_, cs) => (true, cs)
  | cs => some (false, cs)

/-- Reads a number without its sign. -/
def readUnsigned (negative : Bool) (cs : List Char) : Option (Setting × List Char) := do
  let (whole, cs) ← readWhole cs
  let (fraction, cs) ← readFraction cs
  let (exponent, cs) ← readExponent cs
  return (if negative || fraction || exponent then .other
    else .natural (Numeric.ofDigits whole), cs)

/-- Reads a number.  Only natural numbers are told apart. -/
def readNumber : List Char → Option (Setting × List Char)
  | '-' :: cs => readUnsigned true cs
  | cs => readUnsigned false cs

/-! ### Values -/

mutual

/-- Reads a value, in so many steps. -/
def readValue : Nat → List Char → Option (Setting × List Char)
  | 0, _ => none
  | steps + 1, cs =>
    match skipBlanks cs with
    | '\x22' :: cs => (readString cs).map fun (ns, cs) => (ofString ns, cs)
    | '[' :: cs =>
      match skipBlanks cs with
      | ']' :: cs => some (.list [], cs)
      | cs => (readItems steps cs).map fun (items, cs) => (.list items, cs)
    | '\x7b' :: cs =>
      match skipBlanks cs with
      | '\x7d' :: cs => some (.nested [], cs)
      | cs => (readFields steps cs).map fun (fields, cs) => (.nested fields, cs)
    | 't' :: 'r' :: 'u' :: 'e' :: cs => some (.flag true, cs)
    | 'f' :: 'a' :: 'l' :: 's' :: 'e' :: cs => some (.flag false, cs)
    | 'n' :: 'u' :: 'l' :: 'l' :: cs => some (.null, cs)
    | cs => readNumber cs

/-- Reads the items of an array, at least one, and the bracket behind them. -/
def readItems : Nat → List Char → Option (List Setting × List Char)
  | 0, _ => none
  | steps + 1, cs => do
    let (item, cs) ← readValue steps cs
    match skipBlanks cs with
    | ',' :: cs => (readItems steps cs).map fun (items, cs) => (item :: items, cs)
    | ']' :: cs => some ([item], cs)
    | _ => none

/-- Reads the fields of an object, at least one, and the brace behind them. -/
def readFields : Nat → List Char → Option (List (Option String × Setting) × List Char)
  | 0, _ => none
  | steps + 1, cs =>
    match skipBlanks cs with
    | '\x22' :: cs => do
      let (ns, cs) ← readString cs
      match skipBlanks cs with
      | ':' :: cs =>
        let (v, cs) ← readValue steps cs
        let field := ((textOf? ns).map String.ofList, v)
        match skipBlanks cs with
        | ',' :: cs => (readFields steps cs).map fun (fields, cs) => (field :: fields, cs)
        | '\x7d' :: cs => some ([field], cs)
        | _ => none
      | _ => none
    | _ => none

end

/-- The value that a text is.  Every two steps of reading take a character. -/
def value? (s : String) : Option Setting :=
  match readValue (2 * s.length + 2) s.toList with
  | some (v, cs) => if (skipBlanks cs).isEmpty then some v else none
  | none => none

end ChartQuery.Setting.Json
