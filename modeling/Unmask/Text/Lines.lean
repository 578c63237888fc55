import Unmask.Text.Utf8

/-!
Lines of a sequence of octets. A line feed ends a line, together with one carriage return right
before it; the last line may go without.
-/

namespace Unmask.Text

/-- Splits off lines. `seen` holds the octets of the current line, the latest first. -/
def linesFrom (seen : List UInt8) : List UInt8 → List (List UInt8)
  | [] => if seen.isEmpty then [] else [seen.reverse]
  | b :: r =>
    if b = 0x0a then
      (match seen with
        | 0x0d :: line => line.reverse
        | line => line.reverse) :: linesFrom [] r
    else linesFrom (b :: seen) r

def lines (bytes : List UInt8) : List (List UInt8) := linesFrom [] bytes

end Unmask.Text
