import Unmask.Text.Quoted

/-!
Renaming the classes in a descriptor without decoding it: whatever stands between an `L` and the
next `;` is taken for a class name, and all else is copied.
-/

namespace Unmask

/-- New names for some classes. All others keep theirs. -/
abbrev Renaming := Text → Option Text

namespace Renaming

def apply (f : Renaming) (name : Text) : Text := (f name).getD name

/-- Renames from a place outside of a class name, or behind the letters of `some` name, the latest
first. There is no result if a name is not closed. -/
def scan (f : Renaming) : Option Text → Text → Option Text
  | none, [] => some []
  | some _, [] => none
  | none, c :: r => (scan f (if c = 'L' then some [] else none) r).map (c :: ·)
  | some seen, c :: r =>
    if c = ';' then (scan f none r).map (f.apply seen.reverse ++ c :: ·)
    else scan f (some (c :: seen)) r

/-- A descriptor with an `L` and no `;` behind it. -/
structure MissingSemicolon where
  descriptor : Text
  deriving DecidableEq, Repr

def MissingSemicolon.message (e : MissingSemicolon) : Text :=
  "descriptor ".toList ++ Text.quoted e.descriptor
    ++ " has a missing semicolon somewhere".toList

def descriptor (f : Renaming) (d : Text) : Except MissingSemicolon Text :=
  match f.scan none d with
  | some r => .ok r
  | none => .error ⟨d⟩

end Renaming

end Unmask
