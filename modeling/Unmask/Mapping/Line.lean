import Unmask.Text.Blank
import Unmask.Text.Quoted

/-!
The lines of a mapping file. A class line `name -> obfuscated:` starts at the margin, the
lines of its members are indented, and blank lines and comments carry nothing.
-/

namespace Unmask.Mapping

inductive LineFault
  | noArrow (number : Nat) (content : Text)
  | noColon (obfuscated : Text)
  | emptyClass (content : Text)
  | emptyMember (content : Text)
  deriving DecidableEq, Repr

def arrow : Text := [' ', '-', '>', ' ']

def LineFault.message : LineFault → Text
  | noArrow number content =>
    "expected ".toList ++ Text.quoted arrow ++ " in line ".toList ++ Text.decimal number
      ++ ": ".toList ++ Text.quoted content
  | noColon obfuscated =>
    "class mapping ".toList ++ Text.quoted obfuscated ++ " doesn't end with a colon".toList
  | emptyClass content =>
    "empty class name in class mapping ".toList ++ Text.quoted content
  | emptyMember content =>
    "empty obfuscated name in member mapping ".toList ++ Text.quoted content

structure Line where
  number : Nat
  indented : Bool
  content : Text
  deriving DecidableEq, Repr

namespace Line

def ofText (number : Nat) (text : Text) : Line :=
  ⟨number, text.head?.any Text.isBlank, Text.trim text⟩

/-- A blank line or a comment. -/
def isIgnored (l : Line) : Bool := l.content.isEmpty || l.content.head? = some '#'

/-- What stands left and right of the arrow. -/
def sides (l : Line) : Except LineFault (Text × Text) :=
  match Text.cutAt arrow l.content with
  | some (left, right) => .ok (Text.trim left, Text.trim right)
  | none => .error (.noArrow l.number l.content)

/-- The real and the obfuscated name of a class line. -/
def classNames (l : Line) : Except LineFault (Text × Text) :=
  match l.sides with
  | .error f => .error f
  | .ok (real, right) =>
    match Text.dropLast? ':' right with
    | none => .error (.noColon right)
    | some obfuscated =>
      if real = [] ∨ obfuscated = [] then .error (.emptyClass l.content)
      else .ok (real, obfuscated)

/-- The declaration and the obfuscated name of a member line. -/
def memberNames (l : Line) : Except LineFault (Text × Text) :=
  match l.sides with
  | .error f => .error f
  | .ok (declaration, obfuscated) =>
    if obfuscated = [] then .error (.emptyMember l.content) else .ok (declaration, obfuscated)

end Line

end Unmask.Mapping
