/-!
# Cutting texts into fields

Splitting at a separator, replacing single characters, and lists of names in order.
-/

namespace ChartQuery.Text

/-! ### Splitting -/

/-- The fields between the occurrences of a separator; there is always at least one. -/
def fields (sep : Char) : List Char → List (List Char)
  | [] => [[]]
  | c :: cs =>
    if c = sep then [] :: fields sep cs
    else
      match fields sep cs with
      | [] => [[c]]
      | f :: fs => (c :: f) :: fs

/-- There is always a first field. -/
theorem fields_ne_nil (sep : Char) (cs : List Char) : fields sep cs ≠ [] := by
  induction cs with
  | nil => simp [fields]
  | cons c cs ih =>
    unfold fields
    split
    · simp
    · split <;> simp

/-- The fields of a text between the occurrences of a separator. -/
def split (sep : Char) (s : String) : List String :=
  (fields sep s.toList).map String.ofList

/-- What stands before and after the first occurrence of a separator. -/
def cut? (sep : Char) (s : String) : Option (String × String) :=
  match s.toList.dropWhile (· != sep) with
  | [] => none
  | _ :: rest => some (String.ofList (s.toList.takeWhile (· != sep)), String.ofList rest)

/-! ### Replacing -/

/-- The text with every character replaced by a text. -/
def replaceEach (f : Char → List Char) (s : String) : String :=
  String.ofList (s.toList.flatMap f)

/-- The text with every occurrence of a character doubled. -/
def doubled (q : Char) (s : String) : String :=
  replaceEach (fun c => if c = q then [q, q] else [c]) s

/-! ### Ordered names -/

/-- Inserts a name into names in ascending order of code points, unless it is there. -/
def insertName (s : String) : List String → List String
  | [] => [s]
  | t :: ts => if s < t then s :: t :: ts else if s = t then t :: ts else t :: insertName s ts

/-- The distinct names of a list in ascending order of code points. -/
def sortedNames (names : List String) : List String :=
  names.foldr insertName []

end ChartQuery.Text
