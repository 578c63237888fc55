import Unmask.Proofs.Mapping.Outcome

/-!
Lines under other numbers. Numbers are told and nothing else is made of them, so a line under
another number is read as it was, and what is told of it carries the other number.
-/

namespace Unmask.Mapping

variable (f : Nat → Nat)

def LineFault.renumber : LineFault → LineFault
  | noArrow number content => noArrow (f number) content
  | noColon obfuscated => noColon obfuscated
  | emptyClass content => emptyClass content
  | emptyMember content => emptyMember content

def LoadCause.renumber : LoadCause → LoadCause
  | unreadable fault => unreadable fault
  | malformed fault => malformed (fault.renumber f)

def LoadError.renumber (e : LoadError) : LoadError :=
  ⟨f e.line, e.above.map f, e.cause.renumber f⟩

def FileError.renumber : FileError → FileError
  | stream e => stream (e.renumber f)
  | unopened path fault => unopened path fault
  | unread path e => unread path (e.renumber f)

def Diagnostic.renumber : Diagnostic → Diagnostic
  | orphanMember number content => orphanMember (f number) content
  | duplicateClass number content => duplicateClass (f number) content
  | loadFailed e => loadFailed (e.renumber f)

def Event.renumber : Event → Event
  | report d => report (d.renumber f)
  | note n => note n

def Entry.renumber : Entry → Entry
  | orphan number content => orphan (f number) content
  | classLine number content real obfuscated => classLine (f number) content real obfuscated
  | member m obfuscated => member m obfuscated

/-! ### One line -/

variable {n : Nat} {above : Option Nat} {x : Except ReadFault Text} {text : Text}

lemma Line.sides_renumber : (Line.ofText (f n) text).sides =
    (Line.ofText n text).sides.mapError (LineFault.renumber f) := by
  unfold Line.sides
  simp only [Line.content_ofText, Line.number_ofText]
  rcases Text.cutAt arrow (Text.trim text) with _ | ⟨left, right⟩ <;> rfl

lemma Line.classNames_renumber : (Line.ofText (f n) text).classNames =
    (Line.ofText n text).classNames.mapError (LineFault.renumber f) := by
  unfold Line.classNames
  rw [Line.sides_renumber]
  rcases (Line.ofText n text).sides with fault | ⟨real, right⟩
  · rfl
  · rcases hd : Text.dropLast? ':' right with _ | obfuscated
    · simp only [Except.mapError, hd]
      rfl
    · by_cases hempty : real = [] ∨ obfuscated = []
      · simp only [Except.mapError, hd, hempty, if_true]
        rfl
      · simp only [Except.mapError, hd, hempty, if_false]

/-- What comes of a line under another number. -/
def renumberPart (r : Except LoadError (Option Entry)) : Except LoadError (Option Entry) :=
  (r.map (Option.map (Entry.renumber f))).mapError (LoadError.renumber f)

/-- A line plays the same part under another number. -/
lemma Part.renumber {r : Except LoadError (Option Entry)} (h : Part n above x r) :
    Part (f n) (above.map f) x (renumberPart f r) := by
  cases h with
  | unreadable fault => exact .unreadable fault
  | ignored hi => exact .ignored hi
  | orphan hi hd htop => exact .orphan hi hd (by rw [htop, Option.map_none])
  | member hi hd hbelow hs => exact .member hi hd (by rw [hbelow, Option.map_some]) hs
  | badMember hi hd hbelow hbad => exact .badMember hi hd (by rw [hbelow, Option.map_some]) hbad
  | classLine hi hd hs => exact .classLine hi hd hs
  | @badClass text fault hi hd hfault =>
    have hother : (Line.ofText (f n) text).classNames = .error (fault.renumber f) := by
      rw [Line.classNames_renumber, hfault]
      rfl
    exact .badClass hi hd hother

lemma entryAt_renumber (n : Nat) (above : Option Nat) (x : Except ReadFault Text) :
    entryAt (f n) (above.map f) x = renumberPart f (entryAt n above x) :=
  ((part_entryAt n above x).renumber f).entryAt_eq

lemma above_renumber (entry : Option Entry) (above : Option Nat) :
    Entry.above (entry.map (Entry.renumber f)) (above.map f) = (Entry.above entry above).map f := by
  rcases entry with _ | ⟨n, c⟩ | ⟨n, c, o, b⟩ | ⟨m, b⟩ <;> rfl

/-! ### Entries -/

lemma map_renumber_notes (ns : List Note) :
    (ns.map Event.note).map (Event.renumber f) = ns.map Event.note := by
  rw [List.map_map]
  rfl

lemma map_renumber_derived (packages : Bool) (t : Table) (o b : Text) :
    (if packages then derivePackage t o b else (t, [])).2.map (Event.renumber f) =
      (if packages then derivePackage t o b else (t, [])).2 := by
  unfold derivePackage
  cases packages
  · rfl
  · rcases packagesOf? o b with _ | ⟨p, q⟩
    · rfl
    · exact map_renumber_notes f _

namespace Progress

lemma step_renumber (packages : Bool) (p : Progress) (e : Entry) :
    p.step packages (e.renumber f) =
      ((p.step packages e).1, (p.step packages e).2.map (Event.renumber f)) := by
  rcases e with ⟨n, c⟩ | ⟨n, c, o, b⟩ | ⟨d | d, m⟩
  · rfl
  · have hevents := map_renumber_derived f packages p.table o b
    rcases hd : (if packages then derivePackage p.table o b else (p.table, [])) with ⟨t, events⟩
    rw [hd] at hevents
    rcases ha : t.addClass o b with ⟨u, _ | _⟩
    · simp only [step, Entry.renumber, hd, ha, List.map_append, hevents, map_renumber_notes]
      rfl
    · simp only [step, Entry.renumber, hd, ha, hevents]
  · rcases ho : p.owner with _ | o
    · simp only [step, Entry.renumber, ho]
      rfl
    · simp only [step, Entry.renumber, ho, map_renumber_notes]
  · rfl

/-- Entries under other numbers make the same table, and what happens on the way carries the other
numbers. -/
theorem run_renumber (packages : Bool) (p : Progress) (es : List Entry) :
    run packages p (es.map (Entry.renumber f)) =
      ((run packages p es).1, (run packages p es).2.map (Event.renumber f)) := by
  induction es generalizing p with
  | nil => rfl
  | cons e es ih =>
    simp only [List.map_cons, run, step_renumber, ih, List.map_append]

end Progress

/-- A file whose entries and fault are those of another under other numbers is read like it, under
the other numbers. -/
theorem read_renumber {bytes bytes' : List UInt8}
    (h : entries (.bytes bytes') = ((entries (.bytes bytes)).1.map (Entry.renumber f),
      (entries (.bytes bytes)).2.map (LoadError.renumber f))) (packages : Bool) :
    read packages (.bytes bytes') = ((read packages (.bytes bytes)).1.map (Event.renumber f),
      (read packages (.bytes bytes)).2.mapError (LoadError.renumber f)) := by
  unfold read
  rw [h]
  rcases entries (.bytes bytes) with ⟨es, _ | e⟩
  · simp only [Option.map_none, Progress.run_renumber, List.map_append]
    rfl
  · simp only [Option.map_some, Progress.run_renumber]
    rfl

end Unmask.Mapping
