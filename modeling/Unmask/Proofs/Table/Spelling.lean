import Unmask.Proofs.Table.History
import Unmask.Proofs.Text.Replace

/-!
The spelling of names. A name is looked up, shown and filed by its internal form, so nothing comes
of how its parts are separated: neither an answer nor a call differs for it.
-/

namespace Unmask

namespace Name

@[simp] lemma internal_eq_nil_iff {name : Text} : internal name = [] ↔ name = [] :=
  Text.replace_eq_nil_iff

@[simp] lemma qualified_internal (name : Text) : qualified (internal name) = qualified name :=
  Text.replace_replace '.' '/' name

/-- What is the same for the internal form of a name is the same for all its spellings. -/
lemma congr_of_internal {α : Type} {f : Text → α} (hf : ∀ n, f (internal n) = f n) {n n' : Text}
    (h : internal n = internal n') : f n = f n' := by
  rw [← hf n, h, hf n']

end Name

namespace Table

open Name

/-! ### Answers -/

section Answers

variable (t : Table) (name m : Text)

@[simp] lemma realClass?_internal : t.realClass? (internal name) = t.realClass? name := by
  rw [realClass?, internal_internal, realClass?]

@[simp] lemma realPackage?_internal : t.realPackage? (internal name) = t.realPackage? name := by
  rw [realPackage?, internal_internal, realPackage?]

@[simp] lemma showClass_internal (withPackage : Bool) :
    t.showClass (internal name) withPackage = t.showClass name withPackage := by
  rw [showClass, realClass?_internal, internal_internal, showClass]

@[simp] lemma showPackage?_internal : t.showPackage? (internal name) = t.showPackage? name := by
  rw [showPackage?, realPackage?_internal, showPackage?]

@[simp] lemma declaration?_internal :
    t.declaration? (internal name) m = t.declaration? name m := by
  rw [declaration?, internal_internal, declaration?]

@[simp] lemma showMethod_internal : t.showMethod (internal name) m = t.showMethod name m := by
  rw [showMethod, declaration?_internal, showMethod]

end Answers

/-! ### Calls -/

/-- The call with its names of classes and packages in internal form. -/
def Call.internal : Call → Call
  | addClass real obfuscated => addClass (Name.internal real) (Name.internal obfuscated)
  | addMethod obfuscated declaration => addMethod obfuscated declaration
  | addPackage real obfuscated => addPackage (Name.internal real) (Name.internal obfuscated)

lemma addClass?_internal (t : Table) (o b : Text) :
    t.addClass? (internal o) (internal b) = t.addClass? o b := by
  simp only [addClass?, addClass, internal_internal]

lemma addMethod_internal (t : Table) (o m d : Text) :
    t.addMethod (internal o) m d = t.addMethod o m d := by
  simp only [addMethod, internal_internal]

lemma addPackage_internal (t : Table) (o b : Text) :
    t.addPackage (internal o) (internal b) = t.addPackage o b := by
  simp only [addPackage, internal_internal]

namespace Session

/-- The session with the name of the class that lends its method table in internal form. -/
def internal (s : Session) : Session := ⟨s.table, s.lent.map Name.internal⟩

lemma step_internal (s : Session) (c : Call) :
    s.internal.step c.internal = (s.step c).internal := by
  cases c with
  | addClass o b =>
    have ha := addClass?_internal s.table o b
    rcases h : s.table.addClass? o b with _ | t
    · rw [step_addClass_of_none h]
      exact step_addClass_of_none (s := s.internal) (ha.trans h)
    · rw [step_addClass_of_some h]
      exact step_addClass_of_some (s := s.internal) (ha.trans h)
  | addMethod m d =>
    rcases h : s.lent with _ | o
    · have hi : s.internal.lent = none := by rw [internal, h, Option.map_none]
      rw [step_addMethod_of_none h]
      exact step_addMethod_of_none hi
    · have hi : s.internal.lent = some (Name.internal o) := by
        rw [internal, h, Option.map_some]
      have hadd := addMethod_internal s.table o m d
      rw [step_addMethod_of_some h, internal, ← hadd]
      exact step_addMethod_of_some hi
  | addPackage o b =>
    have ha := addPackage_internal s.table o b
    rw [step_addPackage, internal, ← ha]
    rfl

lemma run_internal (s : Session) (calls : List Call) :
    s.internal.run (calls.map Call.internal) = (s.run calls).internal := by
  induction calls generalizing s with
  | nil => rfl
  | cons c calls ih => rw [List.map_cons, run_cons, run_cons, step_internal, ih]

/-- Calls that differ in nothing but the spelling of names make the same table. -/
theorem table_run_congr (s : Session) {calls calls' : List Call}
    (h : calls.map Call.internal = calls'.map Call.internal) :
    (s.run calls).table = (s.run calls').table := by
  have hrun := s.run_internal calls
  rw [h, run_internal] at hrun
  exact (congrArg Session.table hrun).symm

end Session

end Table

end Unmask
