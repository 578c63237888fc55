import Unmask.Directory
import Unmask.Text.Blank
import Unmask.Text.Quoted

/-!
Frames of a stack trace: a class, a method of it and the descriptor of the method. A frame is
written as these three words, or joined as `class.method(descriptor)`.
-/

namespace Unmask

structure Frame where
  className : Text
  methodName : Text
  descriptor : Text
  deriving DecidableEq, Repr

namespace Frame

inductive Fault
  | noDescriptor
  | noClassName
  | emptyName
  | wrongParts
  deriving DecidableEq, Repr

structure ParseError where
  text : Text
  fault : Fault
  deriving DecidableEq, Repr

def ParseError.message (e : ParseError) : Text :=
  let reference : Text := "method reference ".toList ++ Text.quoted e.text
  match e.fault with
  | .noDescriptor => reference ++ " has no descriptor".toList
  | .noClassName => reference ++ " has no class name".toList
  | .emptyName => reference ++ " has an empty class or method name".toList
  | .wrongParts =>
    "expected `class method descriptor` or `class.method(descriptor)`, got ".toList
      ++ Text.quoted e.text

def toText (f : Frame) : Text := f.className ++ ' ' :: f.methodName ++ ' ' :: f.descriptor

/-- The frame in joined form. The descriptor starts at the first `(`, and the last dot before it
stands in front of the method name. -/
def ofJoined (s : Text) : Except Fault Frame :=
  match Text.cutFirst '(' s with
  | none => .error .noDescriptor
  | some (names, descriptor) =>
    match Text.cutLast '.' names with
    | none => .error .noClassName
    | some (className, methodName) =>
      if className = [] ∨ methodName = [] then .error .emptyName
      else .ok ⟨className, methodName, '(' :: descriptor⟩

def ofWords : List Text → Except Fault Frame
  | [className, methodName, descriptor] => .ok ⟨className, methodName, descriptor⟩
  | [joined] => ofJoined joined
  | _ => .error .wrongParts

def parse (s : Text) : Except ParseError Frame :=
  (ofWords (Text.words s)).mapError (ParseError.mk s)

/-! ### Traces -/

inductive ReadError
  | unopened (path : Text) (f : OpenFault)
  | unreadable (line : Nat) (f : ReadFault)
  | malformed (line : Nat) (e : ParseError)
  deriving DecidableEq, Repr

/-- The messages from the outermost to the innermost. -/
def ReadError.chain : ReadError → List Text
  | unopened path f => ["failed to open stack trace ".toList ++ Text.quoted path, f.message]
  | unreadable line f => ["failed to read line ".toList ++ Text.decimal line, f.message]
  | malformed line e => ["in line ".toList ++ Text.decimal line, e.message]

/-- The frames in lines numbered from `number` on, one in each line that is not blank. -/
def readFrom (number : Nat) : List (Except ReadFault Text) → Except ReadError (List Frame)
  | [] => .ok []
  | .error f :: _ => .error (.unreadable number f)
  | .ok text :: rest =>
    if text.all Text.isBlank then readFrom (number + 1) rest
    else
      match parse text with
      | .error e => .error (.malformed number e)
      | .ok frame => (readFrom (number + 1) rest).map (frame :: ·)

def readAll (s : Source) : Except ReadError (List Frame) := readFrom 1 s.lines

end Frame

end Unmask
