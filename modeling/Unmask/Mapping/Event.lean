import Unmask.Directory
import Unmask.Mapping.Entry
import Unmask.Note

/-!
What happens while a mapping file is loaded: reports to whoever loads it, and notes in between.
-/

namespace Unmask.Mapping

inductive FileError
  | stream (e : LoadError)
  | unopened (path : Text) (f : OpenFault)
  | unread (path : Text) (e : LoadError)
  deriving DecidableEq, Repr

/-- The messages from the outermost to the innermost. -/
def FileError.chain : FileError → List Text
  | stream e => e.chain
  | unopened path f =>
    ["failed to open mappings file ".toList ++ Text.quoted path, f.message]
  | unread path e =>
    ("failed to read mappings file ".toList ++ Text.quoted path
      ++ " as proguard mappings".toList) :: e.chain

inductive Diagnostic
  | orphanMember (number : Nat) (content : Text)
  | duplicateClass (number : Nat) (content : Text)
  | loadFailed (e : FileError)
  deriving DecidableEq, Repr

def Diagnostic.message : Diagnostic → Text
  | orphanMember number content =>
    "skipping member mapping without a class in line ".toList ++ Text.decimal number
      ++ ": ".toList ++ Text.quoted content
  | duplicateClass number content =>
    "skipping class mapping for an already mapped class in line ".toList ++ Text.decimal number
      ++ ": ".toList ++ Text.quoted content
  | loadFailed e =>
    "failed to load mappings, no deobfuscation will be done: ".toList
      ++ List.intercalate ": ".toList e.chain

inductive Event
  | report (d : Diagnostic)
  | note (n : Note)
  deriving DecidableEq, Repr

def Event.diagnostic? : Event → Option Diagnostic
  | report d => some d
  | note _ => none

def Event.record : Event → Record
  | report d => ⟨.warn, "guardmap::diagnostics".toList, d.message⟩
  | note n => n.record

end Unmask.Mapping
