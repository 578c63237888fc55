import Unmask.Descriptor.Basic
import Unmask.Text.Quoted

/-!
What can be wrong with a descriptor, and where.
-/

namespace Unmask.Descriptor

inductive Cause
  | missingParameterList
  | missingReturnType
  | danglingArray
  | unterminatedClass
  | emptyClassName
  | unknownCode (c : Char)
  | misplacedVoid
  | tooManyDimensions
  | noProgress
  | trailingInput (rest : Text)
  deriving DecidableEq, Repr

/-- The most arrays that a type may be wrapped in. -/
def maxLevels : Nat := 255

def Cause.message : Cause → Text
  | missingParameterList => "expected a parameter list enclosed in `(` and `)`".toList
  | missingReturnType => "expected a return type".toList
  | danglingArray => "array marker `[` without component type".toList
  | unterminatedClass => "class reference without terminating `;`".toList
  | emptyClassName => "class reference with empty name".toList
  | unknownCode c => "unknown type code ".toList ++ Text.quotedChar c
  | misplacedVoid => "`void` is only allowed as return type".toList
  | tooManyDimensions =>
    "more than ".toList ++ Text.decimal maxLevels ++ " array dimensions".toList
  | noProgress => "no progress made while reading a type".toList
  | trailingInput rest =>
    "expected end of descriptor, got ".toList ++ Text.quoted rest ++ " remaining".toList

/-- A fault of a part of a descriptor, so many octets behind the start of the part. -/
structure Fault where
  offset : Nat
  cause : Cause
  deriving DecidableEq, Repr

/-- The fault as seen from `n` octets further left. -/
def Fault.shift (n : Nat) (f : Fault) : Fault := { f with offset := n + f.offset }

/-- A fault of a descriptor, so many octets behind its start. -/
structure Error where
  descriptor : Text
  position : Nat
  cause : Cause
  deriving DecidableEq, Repr

def Error.message (e : Error) : Text :=
  "invalid descriptor ".toList ++ Text.quoted e.descriptor ++ " at position ".toList
    ++ Text.decimal e.position ++ ": ".toList ++ e.cause.message

/-- The fault, if the part it was found in is all of `descriptor`. -/
def Fault.within (descriptor : Text) (f : Fault) : Error := ⟨descriptor, f.offset, f.cause⟩

end Unmask.Descriptor
