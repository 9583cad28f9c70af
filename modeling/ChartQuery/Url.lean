import ChartQuery.Url.Host

/-!
# URLs

A URL is read into its parts; what follows on its path is passed over.  Schemes of the web need a
host, and with them a backslash is as good as a slash.  Files may have a host of the web, but
neither users nor numbers behind it.

These are the rules of a library for URLs, written out here and in the modules on hosts so that
connections can be read.  No theorem of the theory is about them or rests on them.
-/

namespace ChartQuery

/-- A URL.  User, password and path are still percent coded.  The host is missing if it is empty. -/
structure Url where
  scheme : String
  user : String
  password : String
  host? : Option String
  portNumber? : Option Nat
  path : String
  deriving DecidableEq, Repr

namespace Url

/-! ### Characters and schemes -/

/-- The characters that count: without control characters and spaces at both ends, and without tabs
and line ends. -/
def significant (cs : List Char) : List Char :=
  let isOutside (c : Char) : Bool := c.toNat ≤ 32
  let trimmed := ((cs.dropWhile isOutside).reverse.dropWhile isOutside).reverse
  trimmed.filter fun c => c != '\t' && c != '\n' && c != '\r'

/-- Whether a character may stand in a scheme. -/
def isSchemeChar (c : Char) : Bool := c.isAlphanum || c == '+' || c == '-' || c == '.'

/-- Reads a scheme and the colon behind it. -/
def readScheme (cs : List Char) : Option (String × List Char) :=
  match cs.head?, cs.dropWhile isSchemeChar with
  | some c, ':' :: rest =>
    if c.isAlpha then
      some (String.ofList ((cs.takeWhile isSchemeChar).map Char.toLower), rest)
    else none
  | _, _ => none

/-- The schemes of the web. -/
def webSchemes : List String := ["http", "https", "ws", "wss", "ftp"]

/-! ### Authorities -/

/-- Whether a character ends an authority. -/
def endsAuthority (web : Bool) (c : Char) : Bool :=
  c == '/' || c == '?' || c == '#' || (web && c == '\\')

/-- What stands before and after the last at sign. -/
def cutLastAt (cs : List Char) : Option (List Char × List Char) :=
  match cs.reverse.dropWhile (· != '@') with
  | [] => none
  | _ :: before => some (before.reverse, (cs.reverse.takeWhile (· != '@')).reverse)

/-- The number of characters of a host: it ends before a colon that stands outside of brackets. -/
def hostLength (web : Bool) : Bool → List Char → Nat
  | _, [] => 0
  | inside, c :: cs =>
    if endsAuthority web c || (c == ':' && !inside) then 0
    else 1 + hostLength web (if c == '[' then true else if c == ']' then false else inside) cs

/-- The number of digits behind a host, of which there may be none. -/
def numberOf? (ds : List Char) : Option (Option Nat) :=
  if ds.isEmpty then some none
  else if Numeric.ofDigits ds < 65536 then some (some (Numeric.ofDigits ds)) else none

/-- Reads the number behind a host, after a colon, if there is one. -/
def readNumber : List Char → Option (Option Nat × List Char)
  | ':' :: cs => do
    let number? ← numberOf? (cs.takeWhile Char.isDigit)
    let rest := cs.dropWhile Char.isDigit
    match rest.head? with
    | none => some (number?, rest)
    | some c => if endsAuthority true c then some (number?, rest) else none
  | cs => some (none, cs)

/-- Reads a host and the number behind it.  Only a host can have a number, and a host that must be
there may not be missing. -/
def readHost (web mustBe : Bool) (cs : List Char) :
    Option (Option String × Option Nat × List Char) := do
  let n := hostLength web false cs
  let host ← if web then Host.webText? (cs.take n) else Host.text? (cs.take n)
  let rest := cs.drop n
  if host.isEmpty then
    if mustBe || rest.head? == some ':' then none else some (none, none, rest)
  else do
    let (number?, rest) ← readNumber rest
    return (some (String.ofList host), number?, rest)

/-- The user and the password before an at sign. -/
def userinfo (cs : List Char) : List Char × List Char :=
  (cs.takeWhile (· != ':'), (cs.dropWhile (· != ':')).drop 1)

/-! ### Paths -/

/-- What a segment of a path says. -/
inductive Segment
  /-- The segment before is taken back. -/
  | back
  /-- Nothing. -/
  | stay
  /-- The path goes on. -/
  | name (cs : List Char)

/-- What a segment says; points may be percent coded. -/
def segment (cs : List Char) : Segment :=
  let s := String.ofList (cs.map Char.toLower)
  if s = ".." ∨ s = "%2e%2e" ∨ s = ".%2e" ∨ s = "%2e." then .back
  else if s = "." ∨ s = "%2e" then .stay
  else .name cs

/-- Whether a segment begins with the name of a drive; such a segment is never taken back. -/
def isDrive : List Char → Bool
  | [a, b] => a.isAlpha && (b == ':' || b == '|')
  | a :: b :: c :: _ => a.isAlpha && (b == ':' || b == '|') && c == '\\'
  | _ => false

/-- The segments, in reverse order, without the last one. -/
def takeBack : List (List Char) → List (List Char)
  | [] => []
  | s :: ss => if isDrive s then s :: ss else ss

/-- The segments of a path when what they say is done; `done` holds those before, in reverse
order. -/
def follow (done : List (List Char)) : List (List Char) → List (List Char)
  | [] => done.reverse
  | [s] =>
    match segment s with
    | .back => ([] :: takeBack done).reverse
    | .stay => ([] :: done).reverse
    | .name cs => (cs :: done).reverse
  | s :: ss =>
    match segment s with
    | .back => follow (takeBack done) ss
    | .stay => follow done ss
    | .name cs => follow (cs :: done) ss

/-- The characters up to a question mark or a number sign. -/
def pathPart (cs : List Char) : List Char := cs.takeWhile fun c => c != '?' && c != '#'

/-- The path after its first slash. -/
def normalPath (cs : List Char) : String :=
  String.ofList ('/' :: ['/'].intercalate (follow [] (Text.fields '/' (pathPart cs))))

/-- The path after a host, which may begin with something else than a slash. -/
def pathAfterHost (cs : List Char) : String :=
  match pathPart cs with
  | [] => ""
  | '/' :: cs => normalPath cs
  | cs => normalPath cs

/-! ### URLs -/

/-- Reads what follows on the slashes before an authority. -/
def ofAuthority (scheme : String) (web : Bool) (cs : List Char) : Option Url := do
  let authority := cs.takeWhile (!endsAuthority web ·)
  let rest := cs.dropWhile (!endsAuthority web ·)
  match cutLastAt authority with
  | none =>
    let (host?, number?, rest) ← readHost web web cs
    return ⟨scheme, "", "", host?, number?, pathAfterHost rest⟩
  | some (info, behind) =>
    let (user, password) := userinfo info
    let emptyEnd := info.isEmpty && behind.isEmpty && !rest.isEmpty
    let mustBe := web || emptyEnd || !user.isEmpty || !password.isEmpty
    let (host?, number?, rest) ← readHost web mustBe (behind ++ rest)
    return ⟨scheme, String.ofList user, String.ofList password, host?, number?,
      pathAfterHost rest⟩

/-- Whether a character separates the parts of the name of a file. -/
def isSeparator (c : Char) : Bool := c == '/' || c == '\\'

/-- Reads the host and the path of a file, behind two separators.  The name of a drive belongs to
the path. -/
def ofFile (scheme : String) (cs : List Char) : Option Url :=
  let host := cs.takeWhile (!endsAuthority true ·)
  if host.isEmpty ∨ isDrive host then
    some ⟨scheme, "", "", none, none, pathAfterHost cs⟩
  else do
    let text ← Host.webText? host
    return ⟨scheme, "", "", some (String.ofList text), none,
      pathAfterHost (cs.dropWhile (!endsAuthority true ·))⟩

/-- The URL that a text is. -/
def parse? (text : String) : Option Url := do
  let (scheme, cs) ← readScheme (significant text.toList)
  if webSchemes.contains scheme then
    ofAuthority scheme true (cs.dropWhile isSeparator)
  else if scheme = "file" ∧ (cs.take 2).length = 2 ∧ (cs.take 2).all isSeparator then
    ofFile scheme (cs.drop 2)
  else
    match cs with
    | '/' :: '/' :: cs => ofAuthority scheme false cs
    | '/' :: cs => return ⟨scheme, "", "", none, none, normalPath cs⟩
    | cs => return ⟨scheme, "", "", none, none, String.ofList (pathPart cs)⟩

end Url

end ChartQuery
