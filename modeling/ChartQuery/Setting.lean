/-!
# Settings

The values in a text of settings, whatever language the text is written in.
-/

namespace ChartQuery

/-- A value in a text of settings.  Values that no setting takes are not told apart.  The name of a
field is missing if it holds half of a surrogate pair and so is no text. -/
inductive Setting
  | text (s : String)
  | natural (n : Nat)
  | flag (b : Bool)
  | null
  | list (items : List Setting)
  | nested (fields : List (Option String × Setting))
  | other

namespace Setting

/-- The text of a setting. -/
def text? : Setting → Option String
  | text s => some s
  | _ => none

/-- The natural number of a setting. -/
def natural? : Setting → Option Nat
  | natural n => some n
  | _ => none

/-- The truth value of a setting. -/
def flag? : Setting → Option Bool
  | flag b => some b
  | _ => none

/-- The texts of a setting. -/
def texts? : Setting → Option (List String)
  | list items => items.mapM text?
  | _ => none

/-- The word that a setting chooses: a text, or the name of a field without a value. -/
def choice? : Setting → Option String
  | text s => some s
  | nested [(name?, null)] => name?
  | _ => none

/-- The fields of a setting, which all must have names. -/
def fields? : Setting → Option (List (String × Setting))
  | nested fields => fields.mapM fun (name?, v) => name?.map fun name => (name, v)
  | _ => none

end Setting

end ChartQuery
