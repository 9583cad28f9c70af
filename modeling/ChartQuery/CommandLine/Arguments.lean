import ChartQuery.Response.OutputFormat
import ChartQuery.Sql.Dialect

/-!
# Arguments of the command line

Options are given by a letter after a hyphen or by a name after two.  What is no option is the
source of the data if it comes first, else a query.
-/

namespace ChartQuery.CommandLine

/-! ### Options -/

/-- The options without a value. -/
inductive Switch
  | extended
  | verbose
  deriving DecidableEq, Repr

/-- The options with a value. -/
inductive Parameter
  | defaultTable
  | tables
  | format
  | dialect
  deriving DecidableEq, Repr

/-- An option. -/
inductive Choice
  | switch (s : Switch)
  | parameter (p : Parameter)
  deriving DecidableEq, Repr

/-- The option with a name. -/
def Choice.ofName? : String → Option Choice
  | "extended" => some (.switch .extended)
  | "verbose" => some (.switch .verbose)
  | "default-table" => some (.parameter .defaultTable)
  | "tables" => some (.parameter .tables)
  | "format" => some (.parameter .format)
  | "translate" => some (.parameter .dialect)
  | _ => none

/-- The option with a letter. -/
def Choice.ofLetter? : Char → Option Choice
  | 'e' => some (.switch .extended)
  | 'v' => some (.switch .verbose)
  | 'd' => some (.parameter .defaultTable)
  | 't' => some (.parameter .tables)
  | 'f' => some (.parameter .format)
  | _ => none

/-- Why arguments are not understood. -/
inductive Misuse
  /-- There is no such option. -/
  | unknownOption (option : String)
  /-- An option stands without its value. -/
  | missingValue (option : String)
  /-- An option that takes no value stands with one. -/
  | superfluousValue (option : String)
  /-- An option stands more than once. -/
  | repeated
  /-- A value that an option does not take. -/
  | wrongValue (value : String)
  deriving DecidableEq, Repr

/-- The misuse as a reader is told of it. -/
def Misuse.message : Misuse → String
  | unknownOption option => "unknown option '" ++ option ++ "'"
  | missingValue option => "option '" ++ option ++ "' needs a value"
  | superfluousValue option => "option '" ++ option ++ "' takes no value"
  | repeated => "an option stands more than once"
  | wrongValue value => "wrong value '" ++ value ++ "'"

/-! ### Arguments -/

/-- The arguments. -/
structure Arguments where
  source? : Option String
  queries : List String
  defaultTable? : Option String
  tables? : Option String
  extended : Bool
  format? : Option OutputFormat
  dialect? : Option Dialect
  verbose : Bool
  deriving DecidableEq, Repr

namespace Arguments

/-- No arguments. -/
def none : Arguments := ⟨.none, [], .none, .none, false, .none, .none, false⟩

/-- The arguments with one more that is no option. -/
def addPositional (a : Arguments) (word : String) : Arguments :=
  match a.source? with
  | .none => { a with source? := some word }
  | some _ => { a with queries := a.queries ++ [word] }

/-- The arguments with an option without a value. -/
def addSwitch (a : Arguments) : Switch → Except Misuse Arguments
  | .extended => if a.extended then .error .repeated else .ok { a with extended := true }
  | .verbose => if a.verbose then .error .repeated else .ok { a with verbose := true }

/-- The format that a value of an option names: only its own name does. -/
def formatOf (value : String) : Except Misuse OutputFormat :=
  match OutputFormat.ofText value with
  | .ok f => if f.name = value then .ok f else .error (.wrongValue value)
  | .error _ => .error (.wrongValue value)

/-- The dialect that a value of an option names. -/
def dialectOf (value : String) : Except Misuse Dialect :=
  match Dialect.ofText value with
  | .ok d => .ok d
  | .error _ => .error (.wrongValue value)

/-- The value of an option that has none yet. -/
def once {α : Type} (old? : Option α) (new : α) : Except Misuse (Option α) :=
  if old?.isSome then .error .repeated else .ok (some new)

/-- The arguments with an option and its value. -/
def addParameter (a : Arguments) (p : Parameter) (value : String) : Except Misuse Arguments :=
  match p with
  | .defaultTable => do return { a with defaultTable? := ← once a.defaultTable? value }
  | .tables => do return { a with tables? := ← once a.tables? value }
  | .format => do return { a with format? := ← once a.format? (← formatOf value) }
  | .dialect => do return { a with dialect? := ← once a.dialect? (← dialectOf value) }

/-! ### Reading -/

/-- Whether a word is an option, and so cannot be the value of one. -/
def isOption (word : String) : Bool := word.startsWith "-" && word != "-"

/-- The arguments with an option of the given name, and the option whose value the next word must
be. -/
def addLong (a : Arguments) (name : String) (value? : Option String) :
    Except Misuse (Arguments × Option Parameter) :=
  match Choice.ofName? name, value? with
  | .none, _ => .error (.unknownOption name)
  | some (.switch s), .none => do return (← a.addSwitch s, .none)
  | some (.switch _), some _ => .error (.superfluousValue name)
  | some (.parameter p), some value => do return (← a.addParameter p value, .none)
  | some (.parameter p), .none => .ok (a, some p)

/-- The arguments with the options of letters, and the option whose value the next word must be.
The value of an option may follow on its letter, also after an equals sign. -/
def addLetters (a : Arguments) : List Char → Except Misuse (Arguments × Option Parameter)
  | [] => .ok (a, .none)
  | c :: cs =>
    match Choice.ofLetter? c with
    | .none => .error (.unknownOption (String.singleton c))
    | some (.switch s) => do addLetters (← a.addSwitch s) cs
    | some (.parameter p) =>
      match cs with
      | [] => .ok (a, some p)
      | '=' :: value => do return (← a.addParameter p (String.ofList value), .none)
      | value => do return (← a.addParameter p (String.ofList value), .none)

/-- The arguments with a word that is an option, and the option whose value the next word must
be. -/
def addOption (a : Arguments) (word : String) : Except Misuse (Arguments × Option Parameter) :=
  match word.toList with
  | '-' :: '-' :: cs =>
    match Text.cut? '=' (String.ofList cs) with
    | some (name, value) => a.addLong name (some value)
    | .none => a.addLong (String.ofList cs) .none
  | cs => a.addLetters (cs.drop 1)

/-- The arguments with those of words.  After two hyphens no word is an option. -/
def addWords (a : Arguments) : List String → Except Misuse Arguments
  | [] => .ok a
  | "--" :: words => .ok (words.foldl addPositional a)
  | word :: words =>
    if isOption word then
      match a.addOption word with
      | .error e => .error e
      | .ok (a, .none) => a.addWords words
      | .ok (a, some p) =>
        match words with
        | [] => .error (.missingValue word)
        | value :: words =>
          if isOption value then .error (.missingValue word)
          else
            match a.addParameter p value with
            | .error e => .error e
            | .ok a => a.addWords words
    else (a.addPositional word).addWords words

/-- The arguments of words. -/
def parse (words : List String) : Except Misuse Arguments := none.addWords words

end Arguments

end ChartQuery.CommandLine
