import Unmask.Descriptor.Fault

/-!
Notes for a reader who wants to know why a name was or was not replaced. They say what was done
and change nothing.
-/

namespace Unmask

inductive Level
  | warn | debug | trace
  deriving DecidableEq, Repr

namespace Level

def name : Level → Text
  | warn => "WARN".toList
  | debug => "DEBUG".toList
  | trace => "TRACE".toList

/-- Shown from so many requests for more output on. -/
def threshold : Level → Nat
  | warn => 0
  | debug => 2
  | trace => 3

end Level

/-- One line of the log. -/
structure Record where
  level : Level
  target : Text
  message : Text
  deriving DecidableEq, Repr

def Record.line (r : Record) : Text :=
  '[' :: r.level.name ++ ' ' :: r.target ++ "] ".toList ++ r.message ++ ['\n']

inductive Note
  | classKept (obfuscated first second : Text)
  | packageKept (obfuscated first second : Text)
  | methodKept (obfuscated first second : Text)
  | fieldIgnored (field obfuscated : Text)
  | mappingsRead (classes packages : Nat)
  | mappingsUsed (classes : Nat)
  | signatureUnavailable (className methodName : Text) (error : Descriptor.Error)
  deriving DecidableEq, Repr

namespace Note

def level : Note → Level
  | methodKept .. | fieldIgnored .. => .trace
  | _ => .debug

def target : Note → Text
  | classKept .. | packageKept .. | methodKept .. => "guardmap::table".toList
  | fieldIgnored .. | mappingsRead .. => "guardmap::proguard".toList
  | mappingsUsed .. => "jfr_retrace".toList
  | signatureUnavailable .. => "jfr_retrace::render::signature".toList

/-- Two real names for one. -/
def keptFirst (kind : Text) (obfuscated first second : Text) : Text :=
  kind ++ ' ' :: Text.quoted obfuscated ++ " is mapped to both ".toList ++ Text.quoted first
    ++ " and ".toList ++ Text.quoted second ++ ", keeping the first".toList

def message : Note → Text
  | classKept obfuscated first second => keptFirst "class".toList obfuscated first second
  | packageKept obfuscated first second => keptFirst "package".toList obfuscated first second
  | methodKept obfuscated first second =>
    "keeping method mapping ".toList ++ Text.quoted obfuscated ++ " -> ".toList
      ++ Text.quoted first ++ ", ignoring ".toList ++ Text.quoted second
  | fieldIgnored field obfuscated =>
    "ignoring field mapping ".toList ++ Text.quoted field ++ " -> ".toList
      ++ Text.quoted obfuscated
  | mappingsRead classes packages =>
    "read ".toList ++ Text.decimal classes ++ " class mappings and ".toList
      ++ Text.decimal packages ++ " package mappings".toList
  | mappingsUsed classes =>
    "using ".toList ++ Text.decimal classes ++ " class mappings".toList
  | signatureUnavailable className methodName error =>
    "signature of ".toList ++ className ++ '.' :: methodName ++ " is unavailable: ".toList
      ++ error.message

def record (n : Note) : Record := ⟨n.level, n.target, n.message⟩

end Note

end Unmask
