import Unmask.Mapping.Line
import Unmask.Mapping.Member
import Unmask.Source

/-!
What a mapping file says, entry by entry, up to its first fault.
-/

namespace Unmask.Mapping

inductive Entry
  /-- An indented line above the first class line. Nothing more is asked of it. -/
  | orphan (number : Nat) (content : Text)
  | classLine (number : Nat) (content real obfuscated : Text)
  /-- A member of the class line above. -/
  | member (m : Member) (obfuscated : Text)
  deriving DecidableEq, Repr

inductive LoadCause
  | unreadable (f : ReadFault)
  | malformed (f : LineFault)
  deriving DecidableEq, Repr

/-- The first fault of a mapping file: its line, and the class line above if it stands among the
members of a class. -/
structure LoadError where
  line : Nat
  above : Option Nat
  cause : LoadCause
  deriving DecidableEq, Repr

/-- The messages from the outermost to the innermost. -/
def LoadError.chain (e : LoadError) : List Text :=
  let inLine (n : Nat) : Text := "in line ".toList ++ Text.decimal n
  let outer :=
    match e.above with
    | some n => ["reading lines".toList, inLine n, "reading class members".toList]
    | none => ["reading lines".toList]
  outer ++
    match e.cause with
    | .unreadable f => ["failed to read line ".toList ++ Text.decimal e.line, f.message]
    | .malformed f => [inLine e.line, f.message]

/-- The entry of a line below the class line `above`, if any. No entry for a line that is
ignored. -/
def Entry.ofLine? (above : Option Nat) (l : Line) : Except LoadError (Option Entry) :=
  if l.isIgnored then .ok none
  else if l.indented then
    match above with
    | none => .ok (some (.orphan l.number l.content))
    | some _ =>
      match l.memberNames with
      | .ok (declaration, obfuscated) =>
        .ok (some (.member (Member.ofText declaration) obfuscated))
      | .error f => .error ⟨l.number, above, .malformed f⟩
  else
    match l.classNames with
    | .ok (real, obfuscated) =>
      .ok (some (.classLine l.number l.content real obfuscated))
    | .error f => .error ⟨l.number, none, .malformed f⟩

/-- The class line that members belong to behind this entry. -/
def Entry.above (e : Option Entry) (above : Option Nat) : Option Nat :=
  match e with
  | some (.classLine number ..) => some number
  | _ => above

/-- The entries of lines numbered from `number` on, and the fault that ended them. -/
def entriesFrom (number : Nat) (above : Option Nat) :
    List (Except ReadFault Text) → List Entry × Option LoadError
  | [] => ([], none)
  | .error f :: _ => ([], some ⟨number, above, .unreadable f⟩)
  | .ok text :: rest =>
    match Entry.ofLine? above (Line.ofText number text) with
    | .error e => ([], some e)
    | .ok entry =>
      let r := entriesFrom (number + 1) (Entry.above entry above) rest
      (entry.toList ++ r.1, r.2)

/-- Lines without the byte order marks at the start of the first. -/
def dropMarks : List (Except ReadFault Text) → List (Except ReadFault Text)
  | .ok text :: rest => .ok (text.dropWhile (· = '\ufeff')) :: rest
  | ls => ls

def entries (s : Source) : List Entry × Option LoadError := entriesFrom 1 none (dropMarks s.lines)

end Unmask.Mapping
