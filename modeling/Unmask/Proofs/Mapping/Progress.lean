import Unmask.Mapping.Load
import Unmask.Proofs.Table.Lookup

/-!
What one entry does to the table under construction, as seen by lookups. A class line whose
obfuscated name is taken changes nothing but the packages; all else only fills what is still free.
-/

namespace Unmask

namespace Mapping

open Name

/-- The packages after a class line, if they are derived. -/
def packagesAfter (packages : Bool) (t : Table) (o b : Text) : NameMap :=
  if packages then (derivePackage t o b).1.packages else t.packages

lemma not_mem_package? {name p : Text} (h : package? (internal name) = some p) : '.' ∉ p := by
  obtain ⟨⟨a, r⟩, hc, rfl⟩ := Option.map_eq_some_iff.1 h
  have hn := not_mem_internal name
  rw [(Text.eq_of_cutLast hc).1, List.mem_append, not_or] at hn
  exact hn.1

lemma packagesOf?_eq_some_iff {o b p q : Text} : packagesOf? o b = some (p, q) ↔
    package? (internal o) = some p ∧ package? (internal b) = some q := by
  unfold packagesOf?
  rcases package? (internal o) with _ | p' <;> rcases package? (internal b) with _ | q' <;> simp

lemma getElem?_packagesAfter (packages : Bool) (t : Table) (o b q : Text) :
    (packagesAfter packages t o b)[q]? = t.packages[q]?.or
      (if packages then
        (packagesOf? o b).bind fun r => if r.2 = q then some r.1 else none
      else none) := by
  unfold packagesAfter derivePackage
  cases packages
  · simp
  · rcases hp : packagesOf? o b with _ | ⟨x, y⟩
    · simp
    · obtain ⟨hx, hy⟩ := packagesOf?_eq_some_iff.1 hp
      simp only [if_true, Table.addPackage, internal_eq_self (not_mem_package? hx),
        internal_eq_self (not_mem_package? hy), getElem?_insertIfNew_or, Option.bind_some]

/-- What is reported among all that happens. -/
def reports (events : List Event) : List Diagnostic := events.filterMap Event.diagnostic?

@[simp] lemma reports_append (es fs : List Event) :
    reports (es ++ fs) = reports es ++ reports fs := List.filterMap_append

@[simp] lemma reports_notes (ns : List Note) : reports (ns.map .note) = [] := by
  induction ns with
  | nil => rfl
  | cons n ns ih => exact ih

namespace Progress

variable {packages : Bool} {p : Progress} {n : Nat} {c o b d m : Text}

@[simp] lemma step_orphan : (p.step packages (.orphan n c)).1 = p := rfl

@[simp] lemma step_field : (p.step packages (.member (.field d) m)).1 = p := rfl

lemma step_method_of_some (h : p.owner = some o) :
    (p.step packages (.member (.method d) m)).1 = ⟨p.table.addMethod o m d, some o⟩ := by
  simp [step, h]

/-- Members of a class that is skipped are skipped. -/
lemma step_member_of_none (h : p.owner = none) (member : Member) :
    (p.step packages (.member member m)).1 = p := by
  rcases member with d | d
  · simp [step, h]
  · rfl

lemma fst_derived (packages : Bool) (t : Table) (o b : Text) :
    (if packages then derivePackage t o b else (t, [])).1 =
      { t with packages := packagesAfter packages t o b } := by
  unfold packagesAfter derivePackage
  cases packages
  · rfl
  · rcases packagesOf? o b with _ | ⟨x, y⟩ <;> rfl

lemma step_classLine_of_mem (h : internal b ∈ p.table.classes) :
    (p.step packages (.classLine n c o b)).1 =
      ⟨{ p.table with packages := packagesAfter packages p.table o b }, none⟩ := by
  have hd := fst_derived packages p.table o b
  rcases hr : (if packages then derivePackage p.table o b else (p.table, [])) with ⟨t, events⟩
  rw [hr] at hd
  subst hd
  simp [step, hr, Table.addClass, h]

lemma step_classLine_of_not_mem (h : internal b ∉ p.table.classes) :
    (p.step packages (.classLine n c o b)).1 =
      ⟨{ classes := p.table.classes.insert (internal b) (internal o)
         packages := packagesAfter packages p.table o b
         methods := p.table.methods.insertIfNew (internal o) ∅ }, some o⟩ := by
  have hd := fst_derived packages p.table o b
  rcases hr : (if packages then derivePackage p.table o b else (p.table, [])) with ⟨t, events⟩
  rw [hr] at hd
  subst hd
  simp [step, hr, Table.addClass, h]

/-! ### As seen by lookups -/

lemma owner_classLine : (p.step packages (.classLine n c o b)).1.owner =
    if internal b ∈ p.table.classes then none else some o := by
  by_cases h : internal b ∈ p.table.classes
  · rw [step_classLine_of_mem h, if_pos h]
  · rw [step_classLine_of_not_mem h, if_neg h]

lemma classes_classLine (q : Text) :
    (p.step packages (.classLine n c o b)).1.table.classes[q]? =
      p.table.classes[q]?.or (if internal b = q then some (internal o) else none) := by
  by_cases h : internal b ∈ p.table.classes
  · rw [step_classLine_of_mem h]
    by_cases hq : internal b = q
    · subst hq
      simp [Std.ExtTreeMap.getElem?_eq_some_getElem h]
    · simp [hq]
  · rw [step_classLine_of_not_mem h]
    exact getElem?_insert_or h q _

lemma method?_classLine (c' m' : Text) :
    (p.step packages (.classLine n c o b)).1.table.method? c' m' = p.table.method? c' m' := by
  by_cases h : internal b ∈ p.table.classes
  · rw [step_classLine_of_mem h]; rfl
  · rw [step_classLine_of_not_mem h]
    exact Table.bind_insertIfNew_empty p.table.methods (internal o) c' m'

lemma mem_methods_classLine (h : internal b ∉ p.table.classes) :
    internal o ∈ (p.step packages (.classLine n c o b)).1.table.methods := by
  rw [step_classLine_of_not_mem h]
  exact Std.ExtTreeMap.mem_insertIfNew_self

/-! ### Entry after entry -/

lemma run_append (packages : Bool) (p : Progress) (es fs : List Entry) :
    run packages p (es ++ fs) =
      ((run packages (run packages p es).1 fs).1,
        (run packages p es).2 ++ (run packages (run packages p es).1 fs).2) := by
  induction es generalizing p with
  | nil => rfl
  | cons e es ih => simp [run, ih, List.append_assoc]

/-- The table under construction when the entries have been taken in. -/
def after (packages : Bool) (es : List Entry) : Progress := (run packages {} es).1

lemma after_snoc (packages : Bool) (es : List Entry) (e : Entry) :
    after packages (es ++ [e]) = ((after packages es).step packages e).1 := by
  simp [after, run_append, run]

/-! ### What is reported -/

lemma reports_derived (packages : Bool) (t : Table) (o b : Text) :
    reports (if packages then derivePackage t o b else (t, [])).2 = [] := by
  unfold derivePackage
  cases packages
  · rfl
  · rcases packagesOf? o b with _ | ⟨x, y⟩
    · rfl
    · exact reports_notes _

/-- An orphan is always reported, and a class line if its obfuscated name is taken. -/
lemma reports_step (packages : Bool) (p : Progress) (e : Entry) :
    reports (p.step packages e).2 =
      match e with
      | .orphan n c => [.orphanMember n c]
      | .classLine n c _ b =>
        if internal b ∈ p.table.classes then [.duplicateClass n c] else []
      | .member _ _ => [] := by
  rcases e with ⟨n, c⟩ | ⟨n, c, o, b⟩ | ⟨d | d, m⟩
  · rfl
  · have hd := fst_derived packages p.table o b
    have hn := reports_derived packages p.table o b
    rcases hr : (if packages then derivePackage p.table o b else (p.table, [])) with ⟨t, events⟩
    rw [hr] at hd hn
    subst hd
    by_cases hb : internal b ∈ p.table.classes
    · simp only [step, hr, Table.addClass, hb, if_true, reports_append, reports_notes, hn]
      rfl
    · simpa only [step, hr, Table.addClass, hb, if_false] using hn
  · rcases ho : p.owner with _ | o
    · simp only [step, ho]
      rfl
    · simp only [step, ho]
      exact reports_notes _
  · rfl

/-- The mapped classes do not depend on whether packages are derived. -/
lemma classes_step_congr {q : Progress} (h : p.table.classes = q.table.classes)
    (packages packages' : Bool) (e : Entry) :
    (p.step packages e).1.table.classes = (q.step packages' e).1.table.classes := by
  rcases e with ⟨n, c⟩ | ⟨n, c, o, b⟩ | ⟨d | d, m⟩
  · exact h
  · by_cases hb : internal b ∈ p.table.classes
    · rw [step_classLine_of_mem hb, step_classLine_of_mem (h ▸ hb)]
      exact h
    · rw [step_classLine_of_not_mem hb, step_classLine_of_not_mem (h ▸ hb), h]
  · rcases hp : p.owner with _ | o <;> rcases hq : q.owner with _ | o' <;>
      simpa [step, hp, hq, Table.addMethod] using h
  · exact h

/-- Neither do the reports. -/
theorem reports_run_congr {q : Progress} (h : p.table.classes = q.table.classes)
    (packages packages' : Bool) (es : List Entry) :
    reports (run packages p es).2 = reports (run packages' q es).2 := by
  induction es generalizing p q with
  | nil => rfl
  | cons e es ih =>
    simp only [run, reports_append, reports_step, h]
    rw [ih (classes_step_congr h packages packages' e)]

end Progress

end Mapping

end Unmask
