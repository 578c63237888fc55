import Unmask.Mapping.Load

/-!
Loading a table by nested loops. One loop takes the class lines, and for each of them a loop of its
own takes the members. Both take from the same lines that are still to come: the inner loop stops in
front of the first line that is not indented, and there the outer loop goes on. An error is told by
its messages, and each loop that it passes on its way out puts its own in front.
-/

namespace Unmask.Mapping

structure UnreadLine where
  number : Nat
  fault : ReadFault
  deriving DecidableEq, Repr

def UnreadLine.chain (u : UnreadLine) : List Text :=
  ["failed to read line ".toList ++ Text.decimal u.number, u.fault.message]

def Line.depth (l : Line) : Nat := if l.indented then 1 else 0

/-- The lines that are still to come, as a loop of this depth sees them. -/
structure NestedLines where
  depth : Nat
  rest : List (Except UnreadLine Line)

/-- What a loop leaves behind, or one round of it: the state, whether it went wrong, and the lines
that are still to come. -/
structure Passed (σ : Type) where
  state : σ
  outcome : Except (List Text) Unit
  rest : List (Except UnreadLine Line)

/-- An error is told with this message in front. -/
def Passed.context {σ : Type} (message : Text) (p : Passed σ) : Passed σ :=
  { p with outcome := p.outcome.mapError (message :: ·) }

@[simp] theorem Passed.state_context {σ : Type} (message : Text) (p : Passed σ) :
    (p.context message).state = p.state := rfl

theorem Passed.outcome_context {σ : Type} (message : Text) (p : Passed σ) :
    (p.context message).outcome =
      match p.outcome with
      | .error chain => .error (message :: chain)
      | .ok () => .ok () := by
  rcases p with ⟨s, chain | ⟨⟩, r⟩
  · rfl
  · rfl

/-- What is done with a line. It may take lines behind it, too, but puts none back. -/
structure Visit (σ : Type) where
  run : NestedLines → Line → σ → Passed σ
  le : ∀ it l s, (run it l s).rest.length ≤ it.rest.length

namespace NestedLines

/-- The next line. One that is less indented than the loop is left for the loop outside. -/
def next? (it : NestedLines) : Option (Except UnreadLine Line × NestedLines) :=
  match it.rest with
  | [] => none
  | .ok l :: r => if l.depth < it.depth then none else some (.ok l, ⟨it.depth, r⟩)
  | .error u :: r => some (.error u, ⟨it.depth, r⟩)

def nextLevel (it : NestedLines) : NestedLines := { it with depth := it.depth + 1 }

theorem length_lt_of_next? {it it' : NestedLines} {x : Except UnreadLine Line}
    (h : it.next? = some (x, it')) : it'.rest.length < it.rest.length := by
  rcases it with ⟨depth, _ | ⟨u | l, r⟩⟩
  · cases h
  · cases h
    exact Nat.lt_succ_self _
  · simp only [next?] at h
    split at h
    · cases h
    · cases h
      exact Nat.lt_succ_self _

variable {σ : Type}

/-- Visits one line after the other, until there is none for this loop or one goes wrong. -/
def onEveryLine (f : Visit σ) (it : NestedLines) (s : σ) : Passed σ :=
  match _h : it.next? with
  | none => ⟨s, .ok (), it.rest⟩
  | some (.error u, it') => ⟨s, .error u.chain, it'.rest⟩
  | some (.ok l, it') =>
    let p := f.run it' l s
    match p.outcome with
    | .error _ => p.context ("in line ".toList ++ Text.decimal l.number)
    | .ok () => onEveryLine f ⟨it.depth, p.rest⟩ p.state
termination_by it.rest.length
decreasing_by exact Nat.lt_of_le_of_lt (f.le _ _ _) (length_lt_of_next? _h)

/-- A loop puts no lines back. -/
theorem length_onEveryLine_le (f : Visit σ) (it : NestedLines) (s : σ) :
    (it.onEveryLine f s).rest.length ≤ it.rest.length := by
  fun_induction onEveryLine f it s with
  | case1 => exact Nat.le_refl _
  | case2 it s u it' h => exact Nat.le_of_lt (length_lt_of_next? h)
  | case3 it s l it' h p => exact Nat.le_trans (f.le it' l s) (Nat.le_of_lt (length_lt_of_next? h))
  | case4 it s l it' h p _ ih =>
    exact Nat.le_trans ih (Nat.le_trans (f.le it' l s) (Nat.le_of_lt (length_lt_of_next? h)))

end NestedLines

/-! ### The two loops -/

/-- A table under construction, and what happened so far. -/
structure Draft where
  table : Table := {}
  events : List Event := []

namespace Draft

/-- Takes in a member of the class with the real name `owner`, unless the class was refused. -/
def addMember (owner : Option Text) (m : Member) (obfuscated : Text) (s : Draft) : Draft :=
  match m, owner with
  | .method declaration, some o =>
    ⟨s.table.addMethod o obfuscated declaration,
      s.events ++ (s.table.methodNotes o obfuscated declaration).map .note⟩
  | .method _, none => s
  | .field declaration, _ =>
    { s with events := s.events ++ [.note (.fieldIgnored declaration obfuscated)] }

/-- Takes in a class, and its packages if `packages` is set. The real name comes second, unless the
class was refused. -/
def addClass (packages : Bool) (l : Line) (real obfuscated : Text) (s : Draft) :
    Draft × Option Text :=
  let (t, derived) := if packages then derivePackage s.table real obfuscated else (s.table, [])
  match t.addClass real obfuscated with
  | (u, true) => (⟨u, s.events ++ derived⟩, some real)
  | (u, false) =>
    (⟨u, s.events ++ derived ++ (t.classNotes real obfuscated).map .note
      ++ [.report (.duplicateClass l.number l.content)]⟩, none)

end Draft

def visitMember (owner : Option Text) : Visit Draft where
  run it l s :=
    match l.memberNames with
    | .error f => ⟨s, .error [f.message], it.rest⟩
    | .ok (declaration, obfuscated) =>
      ⟨s.addMember owner (Member.ofText declaration) obfuscated, .ok (), it.rest⟩
  le it l s := by
    split
    · exact Nat.le_refl _
    · exact Nat.le_refl _

/-- A class line takes the members behind it along. -/
def visitClass (packages : Bool) : Visit Draft where
  run it l s :=
    if l.indented then
      ⟨{ s with events := s.events ++ [.report (.orphanMember l.number l.content)] }, .ok (),
        it.rest⟩
    else
      match l.classNames with
      | .error f => ⟨s, .error [f.message], it.rest⟩
      | .ok (real, obfuscated) =>
        let (s, owner) := s.addClass packages l real obfuscated
        (it.nextLevel.onEveryLine (visitMember owner) s).context "reading class members".toList
  le it l s := by
    split
    · exact Nat.le_refl _
    · split
      · exact Nat.le_refl _
      · exact NestedLines.length_onEveryLine_le _ it.nextLevel _

/-- The lines with their numbers. -/
def numberedFrom (number : Nat) : List (Except ReadFault Text) → List (Except UnreadLine Line)
  | [] => []
  | .ok text :: rest => .ok (Line.ofText number text) :: numberedFrom (number + 1) rest
  | .error f :: rest => .error ⟨number, f⟩ :: numberedFrom (number + 1) rest

/-- The line carries something, or cannot be read. -/
def isKept : Except UnreadLine Line → Bool
  | .ok l => !l.isIgnored
  | .error _ => true

/-- Reads a mapping file: what happened on the way, and its table or the messages of its error. -/
def readNested (packages : Bool) (s : Source) : List Event × Except (List Text) Table :=
  let ls := (numberedFrom 1 (dropMarks s.lines)).filter isKept
  let p := (NestedLines.onEveryLine (visitClass packages) ⟨0, ls⟩ {}).context "reading lines".toList
  match p.outcome with
  | .error chain => (p.state.events, .error chain)
  | .ok () =>
    (p.state.events
      ++ [.note (.mappingsRead p.state.table.classes.size p.state.table.packages.size)],
      .ok p.state.table)

end Unmask.Mapping
