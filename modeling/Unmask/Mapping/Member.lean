import Unmask.Text.Blank

/-!
Members of a class as mapping files write them. A method may carry line numbers, up to two in
front of it and any number behind its parameter list; a field carries none and is told by the
white space between its type and its name.
-/

namespace Unmask.Mapping

inductive Member
  | method (declaration : Text)
  | field (declaration : Text)
  deriving DecidableEq, Repr

namespace Member

/-- The text behind a leading line number and its colon, if there is one. -/
def dropNumber? (s : Text) : Option Text :=
  match Text.cutFirst ':' s with
  | some (number, rest) => if number ≠ [] ∧ number.all Text.isDigit then some rest else none
  | none => none

/-- The text without up to two leading line numbers. -/
def dropNumbers (s : Text) : Text :=
  match dropNumber? s with
  | some r => (dropNumber? r).getD r
  | none => s

/-- Line numbers as they follow a parameter list: a colon, then colons and digits. -/
def isNumbering (s : Text) : Bool :=
  s.head? = some ':' && s.all fun c => c = ':' || Text.isDigit c

def ofText (text : Text) : Member :=
  let s := dropNumbers (Text.trim text)
  match Text.cutLast ')' s with
  | some (front, back) => if isNumbering back then method (front ++ [')']) else method s
  | none => if s.any Text.isBlank then field s else method s

end Member

end Unmask.Mapping
