import ChartQuery.Response
import ChartQuery.Text.Split

/-!
# HTML pages

A response as a page.  A page is a list of tags and texts, and only the printer turns it into a
string: tags are written as they are and texts are escaped, so no text can become a tag.
-/

namespace ChartQuery.Response.Html

/-! ### Markup -/

/-- A piece of a page. -/
inductive Piece
  /-- A tag, given by what stands between its angle brackets. -/
  | tag (inside : String)
  /-- The end of a line. -/
  | newline
  /-- Text of the page. -/
  | text (s : String)
  deriving DecidableEq, Repr

/-- A character of a text as it is written. -/
def escape (c : Char) : List Char :=
  if c = '&' then "&amp;".toList
  else if c = '<' then "&lt;".toList
  else if c = '>' then "&gt;".toList
  else [c]

/-- A piece as it is written. -/
def Piece.print : Piece → String
  | tag inside => "<" ++ inside ++ ">"
  | newline => "\n"
  | text s => Text.replaceEach escape s

/-- The text of a page. -/
def print (page : List Piece) : String := String.join (page.map Piece.print)

/-! ### Pages -/

open Piece

/-- What every page begins with. -/
def head (title : String) : List Piece :=
  [tag "!DOCTYPE html PUBLIC \x22-//W3C//DTD HTML 4.01//EN\x22", newline,
    tag "html", newline, tag "head", newline,
    tag "META http-equiv=\x22Content-Type\x22 content=\x22text/html; charset=UTF-8\x22", newline,
    tag "title", text title, tag "/title", newline, tag "/head", newline, tag "body", newline]

/-- The heading of a failure. -/
def heading (e : Entry) : List Piece :=
  [tag "h1 color='#f00'", text (e.reason.text ++ ": " ++ e.message), tag "/h1", tag "/body",
    newline]

/-- A row of the table with the given style. -/
def row (style : String) (texts : List String) : List Piece :=
  [tag ("tr style=\x22" ++ style ++ "\x22"), newline] ++
    (texts.flatMap fun s => [tag "td", text s, tag "/td"]) ++ [newline, tag "/tr", newline]

/-- The style of the titles. -/
def titleStyle : String := "font-weight: bold; background-color: #aaa;"

/-- The style of a row of the table: the rows are grey and white in turn. -/
def rowStyle (i : Nat) : String :=
  "background-color: " ++ if i % 2 = 0 then "#f0f0f0" else "#ffffff"

/-- The rows of the table, counted from the given number on. -/
def rowsFrom : Nat → List (List String) → List Piece
  | _, [] => []
  | i, texts :: rest => row (rowStyle i) texts ++ rowsFrom (i + 1) rest

/-- The table with its titles. -/
def grid (titles : List String) (texts : List (List String)) : List Piece :=
  [tag "table border=\x221\x22 cellpadding=\x222\x22 cellspacing=\x220\x22", newline] ++
    row titleStyle titles ++ rowsFrom 0 texts ++
    [tag "/table", newline, tag "/body", newline, tag "/html", newline]

/-- What follows on the head of a page: its failures if there are any, else its table.  Without a
table there are no titles. -/
def body (r : Response) : List Piece :=
  if r.errors.isEmpty then
    match r.table? with
    | some t => grid t.titles t.texts
    | none => grid [] []
  else r.errors.flatMap heading

/-- The page of a response. -/
def page (r : Response) (title : String) : List Piece := head title ++ body r

/-- The text of the page of a response. -/
def ofResponse (r : Response) (title : String) : String := print (page r title)

end ChartQuery.Response.Html
