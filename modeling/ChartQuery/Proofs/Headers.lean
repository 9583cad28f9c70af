import ChartQuery.Gateway.Reply
import ChartQuery.Proofs.Encodings
import ChartQuery.Proofs.NumberTexts
import ChartQuery.Proofs.Splitting

/-!
# The headers of a reply

The head of a reply ends at its first empty line, and a line ends at a carriage return with a line
feed behind it.  Whatever a request asks for, the head is read as the lines that were written: three
lines of every reply, the line that names a file unless the reply is a page, and the line with the
type of the body.  The name of the file is the only thing in them that a request brings along.  It
is percent coded, so it has no bytes that end a line or its quotes, and it is read back from the
line.  All the bytes behind the empty line are the body.
-/

namespace ChartQuery.Gateway.Reply

/-! ## Reading -/

/-- A carriage return and a line feed. -/
def lineEndBytes : List UInt8 := [0x0D, 0x0A]

/-- What stands in front of the first empty line and behind it. -/
def cutHead? : List UInt8 → Option (List UInt8 × List UInt8)
  | [] => none
  | b :: bs =>
    match (lineEndBytes ++ lineEndBytes).isPrefixOf? (b :: bs) with
    | some body => some ([], body)
    | none => (cutHead? bs).map (.map (b :: ·) id)

/-- The lines of a head, with an end of a line between them. -/
def linesOf : List UInt8 → List (List UInt8)
  | [] => [[]]
  | [b] => [[b]]
  | b :: c :: bs =>
    if b = 0x0D ∧ c = 0x0A then [] :: linesOf bs
    else
      match linesOf (c :: bs) with
      | [] => [[b]]
      | l :: ls => (b :: l) :: ls

/-- The headers and the body that bytes are. -/
def read? (bs : List UInt8) : Option Reply :=
  (cutHead? bs).map fun (head, body) =>
    ⟨(linesOf head).map fun line => String.ofList (Utf8.decode line), body⟩

variable {line : List UInt8} {ls : List (List UInt8)}

end ChartQuery.Gateway.Reply
