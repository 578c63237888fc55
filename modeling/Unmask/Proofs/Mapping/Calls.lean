import Unmask.Proofs.Mapping.Progress
import Unmask.Proofs.Table.History

/-!
Loading a mapping file by calls. Each entry makes a few of them, and the class whose members come
next is the one whose method table is lent out, so whatever holds after any history of calls holds
of loaded tables.
-/

namespace Unmask

open Name

namespace Mapping

open Table

/-- The packages of a class line are mapped first, if they are derived. -/
def packageCalls (packages : Bool) (o b : Text) : List Call :=
  if packages then (packagesOf? o b).toList.map fun p => .addPackage p.1 p.2 else []

/-- The calls that an entry makes. -/
def Entry.calls (packages : Bool) : Entry → List Call
  | .orphan _ _ => []
  | .classLine _ _ real obfuscated =>
    packageCalls packages real obfuscated ++ [.addClass real obfuscated]
  | .member (.method declaration) obfuscated => [.addMethod obfuscated declaration]
  | .member (.field _) _ => []

namespace Progress

/-- The class whose members come next is the one whose method table is lent out. -/
def session (p : Progress) : Session := ⟨p.table, p.owner⟩

lemma table_run_packageCalls (p : Progress) (packages : Bool) (o b : Text) :
    (p.session.run (packageCalls packages o b)).table =
      { p.table with packages := packagesAfter packages p.table o b } := by
  rw [← fst_derived]
  unfold packageCalls derivePackage
  cases packages
  · rfl
  · rcases packagesOf? o b with _ | ⟨x, y⟩ <;> rfl

lemma session_classLine (p : Progress) (packages : Bool) (n : Nat) (c o b : Text) :
    (p.step packages (.classLine n c o b)).1.session =
      p.session.run ((Entry.classLine n c o b).calls packages) := by
  have ht := p.table_run_packageCalls packages o b
  rw [Entry.calls, Session.run_append, Session.run_cons, Session.run_nil]
  -- only the table matters to a class that is added
  generalize p.session.run (packageCalls packages o b) = s at ht
  by_cases hb : internal b ∈ p.table.classes
  · have hs : internal b ∈ s.table.classes := by rwa [ht]
    have ha : s.table.addClass? o b = none := addClass?_eq_none_iff.2 (mem_classes_iff.1 hs)
    rw [step_classLine_of_mem hb, Session.step_addClass_of_none ha, ht, session]
  · have hs : internal b ∉ s.table.classes := by rwa [ht]
    have ha : s.table.addClass? o b = some (p.step packages (.classLine n c o b)).1.table := by
      rw [step_classLine_of_not_mem hb, addClass?, addClass_of_not_mem hs, ht]
    rw [Session.step_addClass_of_some ha, session, step_classLine_of_not_mem hb]

lemma session_step (p : Progress) (packages : Bool) (e : Entry) :
    (p.step packages e).1.session = p.session.run (e.calls packages) := by
  rcases e with ⟨n, c⟩ | ⟨n, c, o, b⟩ | ⟨d | d, m⟩
  · rfl
  · exact p.session_classLine packages n c o b
  · rcases ho : p.owner with _ | o
    · rw [step_member_of_none ho]
      exact (Session.step_addMethod_of_none ho).symm
    · rw [step_method_of_some ho]
      exact (Session.step_addMethod_of_some (s := p.session) ho).symm
  · rfl

lemma session_run (p : Progress) (packages : Bool) (es : List Entry) :
    (run packages p es).1.session = p.session.run (es.flatMap (Entry.calls packages)) := by
  induction es generalizing p with
  | nil => rfl
  | cons e es ih =>
    have hrest := ih (p.step packages e).1
    rw [session_step, ← Session.run_append] at hrest
    rw [List.flatMap_cons, ← hrest]
    rfl

end Progress

lemma read_snd (packages : Bool) (s : Source) :
    (read packages s).2 =
      match (entries s).2 with
      | some e => .error e
      | none => .ok (Progress.after packages (entries s).1).table := by
  unfold read Progress.after
  rcases entries s with ⟨es, _ | e⟩ <;> rfl

/-- Whoever loads a file goes on with its table, or else with a new one. -/
lemma load_snd (packages : Bool) (s : Source) :
    (load packages s).2 =
      match (read packages s).2 with
      | .ok t => t
      | .error _ => {} := by
  unfold load readStream
  rcases read packages s with ⟨events, e | t⟩ <;> rfl

lemma loadPath_snd (open? : Opener) (packages : Bool) (path : Text) :
    (loadPath open? packages path).2 =
      match open? path with
      | .ok s => (load packages s).2
      | .error _ => {} := by
  unfold loadPath readPath load readStream
  rcases open? path with f | s
  · rfl
  · show (recover (_, (read packages s).2.mapError _)).2 =
      (recover (_, (read packages s).2.mapError _)).2
    rcases (read packages s).2 with e | t <;> rfl

/-- A loaded table is what some calls make of a new one. -/
theorem exists_calls_load (packages : Bool) (s : Source) :
    ∃ calls, (Session.after calls).table = (load packages s).2 := by
  rw [load_snd, read_snd]
  rcases (entries s).2 with _ | e
  · have hrun := Progress.session_run {} packages (entries s).1
    exact ⟨(entries s).1.flatMap (Entry.calls packages), (congrArg Session.table hrun).symm⟩
  · exact ⟨[], rfl⟩

theorem exists_calls_loadPath (open? : Opener) (packages : Bool) (path : Text) :
    ∃ calls, (Session.after calls).table = (loadPath open? packages path).2 := by
  rw [loadPath_snd]
  rcases open? path with f | s
  · exact ⟨[], rfl⟩
  · exact exists_calls_load packages s

end Mapping

end Unmask
