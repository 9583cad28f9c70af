import ChartQuery.Calendar.Reading
import ChartQuery.Numeric.General
import ChartQuery.Numeric.Numeral
import ChartQuery.Table.Labels
import ChartQuery.Text.Split

/-!
# Conversion of cells

Every cell is converted to the type that its column is shown as: it gets the text that the pattern
of the column makes of the value, and the value in the form in which a client expects it.  Cells
without a value and with null stay as they are.
-/

namespace ChartQuery

/-! ### Truth values and texts -/

namespace Value

/-- The words for true. -/
def trueWords : List String := ["1", "true", "True", "TRUE"]

/-- The words for false, among them the empty one. -/
def falseWords : List String := ["0", "false", "False", "FALSE", ""]

/-- The truth value that a value is. -/
def toBool (v : Value) : Except Failure Bool :=
  match v with
  | bool b => .ok b
  | int n => .ok (n != 0)
  | uint n => .ok (n != 0)
  | float x => .ok (!x.isZero)
  | string s =>
    if trueWords.contains s then .ok true
    else if falseWords.contains s then .ok false
    else .error (.notConvertible .boolean v.display)
  | null | timeOfDay .. => .error (.notConvertible .boolean v.display)

/-- Whether a natural number is also a signed integer of 64 bits. -/
def isSigned (n : Nat) : Bool := n < Nat.pow 2 63

/-- The text that a value is as a string: numbers are written in the pattern that is used where none
is given. -/
def toText (v : Value) : String :=
  match v with
  | bool b => if b then "TRUE" else "FALSE"
  | int n => NumberPattern.default.formatInt n
  | uint n =>
    if isSigned n then NumberPattern.default.formatInt n
    else NumberPattern.default.formatBinary64 (.ofInt n)
  | float x => NumberPattern.default.formatBinary64 x
  | null | string _ | timeOfDay .. => v.display

/-! ### Numbers -/

/-- The text of an integer in a pattern, if one is given. -/
def intText (pattern? : Option NumberPattern) (n : Int) : String :=
  (pattern?.getD .default).formatInt n

/-- The text of a number in a pattern; without one it has six significant digits. -/
def floatText (pattern? : Option NumberPattern) (x : Binary64) : String :=
  match pattern? with
  | some p => p.formatBinary64 x
  | none => x.general

/-- The number that a value is, with its text.  A text is read as an integer if it can be, with
blanks around it. -/
def toNumber (pattern? : Option NumberPattern) (v : Value) : Except Failure (Value × String) :=
  match v with
  | int n => .ok (v, intText pattern? n)
  | uint n =>
    .ok (v, if isSigned n then intText pattern? n else floatText pattern? (.ofInt n))
  | float x => .ok (v, floatText pattern? x)
  | bool b => .ok (int b.toNat, intText pattern? b.toNat)
  | string s =>
    let text := Text.trim s
    match Numeral.integer? 64 text with
    | some n => .ok (int n, intText pattern? n)
    | none =>
      match Numeral.binary64? text with
      | some x => .ok (float x, floatText pattern? x)
      | none => .error (.notConvertible .number s)
  | null | timeOfDay .. => .error (.notConvertible .number v.display)

/-! ### Instants -/

/-- The instant of a number of milliseconds since 1970. -/
def ofMillis (ms : Int) : Except Failure Instant :=
  match Instant.ofEpochMillis? ms with
  | some i => .ok i
  | none => .error (.timestampRange ms)

/-- The numbers of a list of texts, if all of them are numbers of 32 bits. -/
def parts? (texts : List String) : Option (List Nat) :=
  texts.mapM fun t => Numeral.natural? (Nat.pow 2 32) (Text.trim t)

/-- What stands between the parentheses of `Date(...)`. -/
def dateArguments? (s : String) : Option String :=
  match s.toList with
  | 'D' :: 'a' :: 't' :: 'e' :: '(' :: rest =>
    if rest.getLast? = some ')' then some (String.ofList rest.dropLast) else none
  | _ => none

/-- The instant that a text `Date(year,month,day)` or `Date(year,month,day,hour,minute,second,ms)`
is, with months from zero. -/
def dateLiteral? (s : String) : Option Instant := do
  let inner ← dateArguments? s
  let (year, rest) ← Text.cut? ',' inner
  let year ← Numeral.integer? 32 (Text.trim year)
  match ← parts? (Text.split ',' rest) with
  | [month, day] => return .ofDate (← Date.ofYmd? year (month + 1) day)
  | [month, day, hour, minute, second, milli] =>
    return ⟨← Date.ofYmd? year (month + 1) day, ← Clock.ofMillis? hour minute second milli⟩
  | _ => none

/-- The first day of the year that four digits are. -/
def yearAlone? (s : String) : Option Instant := do
  let cs := s.toList
  if cs.length = 4 ∧ cs.all Char.isDigit then
    return .ofDate (← Date.ofYmd? (Numeric.ofDigits cs) 1 1)
  else none

/-- Whether a text is the date that databases have for no date. -/
def isZeroDate (s : String) : Bool :=
  "0000-00-00".toList.isPrefixOf s.toList || s == "0000"

/-- The instant that a text without blanks around it is: a literal, a date with or without a time
of day, a time of day alone, or a year alone. -/
def readInstant? (s : String) : Option Instant :=
  if isZeroDate s then some (.ofDate .first)
  else
    dateLiteral? s
    <|> Calendar.instant? s
    <|> Calendar.instantT? s
    <|> (Calendar.date? s).map .ofDate
    <|> (Calendar.clock? s).map .ofClock
    <|> yearAlone? s

/-- The instant that a value is.  A number counts milliseconds, also one in a text unless the data
of the column are texts. -/
def toInstant (fromText : Bool) (v : Value) : Except Failure Instant :=
  match v with
  | string s =>
    let text := Text.trim s
    match if fromText then none else Numeral.binary64? text with
    | some x => ofMillis x.toInt64
    | none =>
      match readInstant? text with
      | some i => .ok i
      | none => .error (.notConvertible .date s)
  | int n => ofMillis n
  | uint n => ofMillis (Binary64.clampInt64 n)
  | float x => ofMillis x.toInt64
  | timeOfDay h m s ms =>
    match Clock.ofMillis? h m s ms with
    | some c => .ok (.ofClock c)
    | none => .error (.notConvertible .time v.display)
  | null | bool _ => .error (.notConvertible .date v.display)

/-- A text `Date(...)` with the given numbers. -/
def dateText (parts : List Int) : Value :=
  string ("Date(" ++ ",".intercalate (parts.map toString) ++ ")")

/-- An instant in the form in which a client expects it; months count from zero. -/
def ofInstant (type : ColumnType) (i : Instant) : Value :=
  let d := i.date
  let c := i.clock
  match type with
  | .timeOfDay => timeOfDay c.hour c.minute c.second c.shownMillis
  | .date => dateText [d.year, (d.month : Int) - 1, d.day]
  | _ =>
    dateText [d.year, (d.month : Int) - 1, d.day, c.hour, c.minute, c.second, c.shownMillis]

end Value

/-! ### Conversions -/

/-- How the cells of a column are converted. -/
inductive Conversion
  | boolean (truthy falsy : String)
  | number (pattern? : Option NumberPattern)
  | string
  | temporal (type : ColumnType) (pattern : DatePattern) (fromText : Bool)

namespace Conversion

/-- The pattern for dates and times of a type where none is given. -/
def defaultPattern : ColumnType → String
  | .date => "yyyy/MM/dd"
  | .timeOfDay => "H:mm:ss.SSS"
  | _ => "yyyy/MM/dd H:mm:ss.SSS"

/-- The conversion for a column, whose pattern has to be one for the type that the column is shown
as. -/
def ofColumn (c : Column) : Except Failure Conversion :=
  match c.type with
  | .boolean =>
    if c.isGeneral then .ok (boolean "TRUE" "FALSE")
    else match Text.cut? ':' c.pattern with
      | some (truthy, falsy) => .ok (boolean truthy falsy)
      | none => .error (.wrongPattern .boolean c.pattern)
  | .number =>
    if c.isGeneral then .ok (number none)
    else match NumberPattern.parse? c.pattern with
      | some p => .ok (number (some p))
      | none => .error (.wrongPattern .number c.pattern)
  | .string => .ok string
  | .date | .timeOfDay | .dateTime =>
    let text := if c.isGeneral then defaultPattern c.type else c.pattern
    match DatePattern.parse? text with
    | some p => .ok (temporal c.type p (c.native? == some .string))
    | none => .error (.wrongPattern .date text)

/-- The cell of a value other than null.  A string has no text of its own; a text that the cell was
shown as before stays. -/
def convert (k : Conversion) (text? : Option String) (v : Value) : Except Failure Cell :=
  match k with
  | boolean truthy falsy => do
    let b ← v.toBool
    .ok ⟨some (.bool b), some (if b then truthy else falsy)⟩
  | number pattern? => do
    let (n, text) ← v.toNumber pattern?
    .ok ⟨some n, some text⟩
  | string => .ok ⟨some (.string v.toText), text?⟩
  | temporal type pattern fromText => do
    let i ← v.toInstant fromText
    .ok ⟨some (.ofInstant type i), some (pattern.format i)⟩

/-- The converted cell. -/
def apply (k : Conversion) (c : Cell) : Except Failure Cell :=
  match c.value? with
  | none | some .null => .ok c
  | some v => k.convert c.text? v

end Conversion

/-! ### Tables -/

/-- What a query asks to be left out of the cells. -/
structure FormatOptions where
  noValues : Bool
  noFormat : Bool
  deriving DecidableEq, Inhabited, Repr

namespace FormatOptions

/-- The cell without its value.  A string that is not shown otherwise becomes the text. -/
def withoutValue (isString : Bool) (c : Cell) : Cell :=
  { value? := none
    text? :=
      if isString && c.text?.isNone then (c.value?.filter (!·.isNull)).map Value.display
      else c.text? }

/-- The cell without what is to be left out. -/
def restrict (o : FormatOptions) (isString : Bool) (c : Cell) : Cell :=
  let c := if o.noValues then withoutValue isString c else c
  if o.noFormat then { c with text? := none } else c

end FormatOptions

namespace Table

/-- Converts the cell of a row at some place. -/
def convertAt (k : Conversion) (o : FormatOptions) (isString : Bool) (i : Nat) (r : Row) :
    Except Failure Row :=
  match r[i]? with
  | none => .ok r
  | some c => do
    let c ← k.apply c
    .ok (r.set i (o.restrict isString c))

/-- Converts the cells of a column, which stands at some place. -/
def convertColumn (o : FormatOptions) (i : Nat) (c : Column) (rows : List Row) :
    Progress (List Row) :=
  match Conversion.ofColumn c with
  | .error f => .stopped rows f
  | .ok k => Progress.each (convertAt k o (c.type == .string) i) rows

/-- Converts the cells of columns, the first of which stands at some place. -/
def convertColumns (o : FormatOptions) : Nat → List Column → List Row → Progress (List Row)
  | _, [], rows => .done rows
  | i, c :: cs, rows => (convertColumn o i c rows).andThen (convertColumns o (i + 1) cs)

/-- Converts all cells, column by column, and leaves out of them what the options say. -/
def applyFormats (o : FormatOptions) (t : Table) : Progress Table :=
  match t.checkShape with
  | .error f => .stopped t f
  | .ok () => (convertColumns o 0 t.columns t.rows).map fun rows => { t with rows }

end Table

end ChartQuery
