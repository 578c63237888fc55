import Unmask.Text.Lines

/-!
Where lines are read from. Each line is read by itself, so a fault leaves the lines above it
readable.
-/

namespace Unmask

inductive ReadFault
  | notUtf8
  | isDirectory
  deriving DecidableEq, Repr

def ReadFault.message : ReadFault → Text
  | notUtf8 => "stream did not contain valid UTF-8".toList
  | isDirectory => "Is a directory (os error 21)".toList

/-- What an opened path leads to. -/
inductive Source
  | bytes (content : List UInt8)
  | directory

namespace Source

def readLine (bytes : List UInt8) : Except ReadFault Text :=
  match Text.Utf8.decode bytes with
  | some text => .ok text
  | none => .error .notUtf8

/-- The lines in order, each of them read or not. A directory cannot be read from its start. -/
def lines : Source → List (Except ReadFault Text)
  | bytes content => (Text.lines content).map readLine
  | directory => [.error .isDirectory]

end Source

end Unmask
