import ChartQuery.Text.Hex
import ChartQuery.Text.Split

/-!
# Spans of characters

Properties of characters are written down as spans.  A span is written as the numbers of its first
and its last character, in hexadecimal digits with a hyphen between them; if it is a single
character, one number is enough.  Spaces stand between spans.
-/

namespace ChartQuery.Text

/-- All characters from one number to another. -/
structure Span where
  first : Nat
  last : Nat
  deriving DecidableEq, Repr

namespace Span

/-- Whether a character is in a span. -/
def contains (s : Span) (c : Char) : Bool := s.first ≤ c.toNat && c.toNat ≤ s.last

/-- The span that a text is. -/
def read? (cs : List Char) : Option Span :=
  match fields '-' cs with
  | [a] => do
    let n ← ofHex? a
    return ⟨n, n⟩
  | [a, b] => do return ⟨← ofHex? a, ← ofHex? b⟩
  | _ => none

/-- The spans of lines. -/
def readAll (lines : List String) : List Span :=
  lines.flatMap fun line => (fields ' ' line.toList).filterMap read?

end Span

/-- Whether a character is in one of the spans. -/
def isIn (spans : List Span) (c : Char) : Bool := spans.any (·.contains c)

end ChartQuery.Text
