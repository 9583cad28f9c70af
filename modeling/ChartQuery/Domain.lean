import ChartQuery.Domain.Character
import ChartQuery.Domain.Direction
import ChartQuery.Domain.Joiner
import ChartQuery.Domain.Punycode
import ChartQuery.Text.Composed

/-!
# Domain names

A domain name is a list of labels with points between them.  It may be written in many ways that
mean the same name: with capital letters, with variants of characters, or with labels in Punycode
behind a sign.  Of all these, one is the name itself.

The modules on domain names and on URLs, with those on combining characters and composed texts that
they need, write out the rules of a library for URLs that connections are read with.  They are there
so that connections can be read; no theorem of the theory is about them or rests on them.
-/

namespace ChartQuery.Domain

open Text

/-! ### Labels -/

/-- The greatest number of characters of a label in Punycode, without the sign. -/
def greatestCode : Nat := 2000

/-- The greatest number of characters of a label with characters that are not ASCII. -/
def greatestLabel : Nat := 1000

/-- The label that a label in Punycode stands for.  It must be written as it is in the name itself,
or else the name could be written in more ways than the rules say. -/
def ofCode? (code : List Char) : Option (List Char) := do
  if greatestCode < code.length then none
  let label ← Punycode.decode? code
  if label.all standsForItself ∧ composed label = label then some label else none

/-- Whether a label is well formed: it does not begin with a mark, its joiners are in their places,
and it is not too long. -/
def isWellFormed (label : List Char) : Bool :=
  !label.head?.any isMark && keepsJoiners [] label &&
    (label.all (·.toNat < 128) || label.length ≤ greatestLabel)

/-- The label that a label means, if it is well formed. -/
def label? (cs : List Char) : Option (List Char) := do
  let label ←
    match cs with
    | 'x' :: 'n' :: '-' :: '-' :: code => ofCode? code
    | _ => some cs
  if isWellFormed label then some label else none

/-! ### Names -/

/-- The characters of a name as it is meant, before its labels are looked at. -/
def mapped? (cs : List Char) : Option (List Char) := do
  let meanings ← cs.mapM meaning?
  let mapped := composed meanings.flatten
  if mapped.any isReserved then none else some mapped

/-- The name that a text means. -/
def name? (cs : List Char) : Option (List Char) := do
  let labels ← (fields '.' (← mapped? cs)).mapM label?
  let name := ['.'].intercalate labels
  if keepsDirections name then some name else none

end ChartQuery.Domain
