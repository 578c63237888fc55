import Mathlib.Tactic.Lemma
import Unmask.Table.Lookup

/-!
What one change of a table does, as seen by lookups: each of them only fills what is still free.
-/

namespace Unmask

variable {β : Type}

/-- A key that is new is filled, and all else stays. -/
lemma getElem?_insertIfNew_or (t : Std.ExtTreeMap Text β) (k q : Text) (v : β) :
    (t.insertIfNew k v)[q]? = t[q]?.or (if k = q then some v else none) := by
  rw [Std.ExtTreeMap.getElem?_insertIfNew]
  by_cases hk : k = q
  · subst hk
    by_cases hm : k ∈ t
    · simp [hm]
    · simp [hm]
  · simp [hk]

lemma getElem?_insert_or {t : Std.ExtTreeMap Text β} {k : Text} (h : k ∉ t) (q : Text) (v : β) :
    (t.insert k v)[q]? = t[q]?.or (if k = q then some v else none) := by
  rw [Std.ExtTreeMap.getElem?_insert]
  by_cases hk : k = q
  · subst hk
    simp [Std.ExtTreeMap.getElem?_eq_none h]
  · simp [hk]

namespace Table

/-- The declaration of a method, by the internal form of the real name of its class. -/
def method? (t : Table) (c m : Text) : Option Text := t.methods[c]?.bind fun ms => ms[m]?

lemma declaration?_eq (t : Table) (c m : Text) :
    t.declaration? c m = t.method? (Name.internal c) m := rfl

lemma mem_methods_addMethod {t : Table} {o m d c : Text} :
    c ∈ (t.addMethod o m d).methods ↔ c ∈ t.methods := by
  rw [addMethod]
  exact Std.ExtTreeMap.mem_modify

lemma method?_addMethod {t : Table} {o m d : Text} (h : Name.internal o ∈ t.methods)
    (c m' : Text) :
    (t.addMethod o m d).method? c m' =
      (t.method? c m').or (if Name.internal o = c ∧ m = m' then some d else none) := by
  unfold method?
  rw [addMethod, Std.ExtTreeMap.getElem?_modify]
  by_cases hc : Name.internal o = c
  · subst hc
    simp [Std.ExtTreeMap.getElem?_eq_some_getElem h, getElem?_insertIfNew_or]
  · simp [hc]

/-- An empty method table answers nothing. -/
lemma bind_insertIfNew_empty (ms : Std.ExtTreeMap Text NameMap) (o c m : Text) :
    ((ms.insertIfNew o ∅)[c]?.bind fun ds => ds[m]?) = ms[c]?.bind fun ds => ds[m]? := by
  rw [getElem?_insertIfNew_or]
  rcases ms[c]? with _ | ds
  · by_cases hc : o = c <;> simp [hc]
  · simp

lemma classes_addMethod (t : Table) (o m d : Text) : (t.addMethod o m d).classes = t.classes := rfl

lemma packages_addMethod (t : Table) (o m d : Text) :
    (t.addMethod o m d).packages = t.packages := rfl

/-! ### Adding a class -/

variable {t u : Table} {o b : Text}

lemma mem_classes_iff : Name.internal b ∈ t.classes ↔ (t.realClass? b).isSome :=
  Std.ExtTreeMap.isSome_getElem?_iff_mem.symm

lemma addClass_of_mem (h : Name.internal b ∈ t.classes) : t.addClass o b = (t, false) := by
  rw [addClass, if_pos h]

lemma addClass_of_not_mem (h : Name.internal b ∉ t.classes) :
    t.addClass o b = ({ t with
      classes := t.classes.insert (Name.internal b) (Name.internal o)
      methods := t.methods.insertIfNew (Name.internal o) ∅ }, true) := by
  rw [addClass, if_neg h]

/-- A class is refused just if its obfuscated name is mapped. -/
lemma addClass_snd_eq_false_iff : (t.addClass o b).2 = false ↔ (t.realClass? b).isSome := by
  rw [← mem_classes_iff]
  by_cases h : Name.internal b ∈ t.classes
  · simp [addClass_of_mem h, h]
  · simp [addClass_of_not_mem h, h]

/-- The table is as before if the class is refused. -/
lemma addClass_fst_of_refused (h : (t.addClass o b).2 = false) : (t.addClass o b).1 = t := by
  rw [addClass_snd_eq_false_iff, ← mem_classes_iff] at h
  rw [addClass_of_mem h]

lemma addClass?_eq_none_iff : t.addClass? o b = none ↔ (t.realClass? b).isSome := by
  rw [← addClass_snd_eq_false_iff (o := o), addClass?]
  rcases t.addClass o b with ⟨u, _ | _⟩
  · simp
  · simp

lemma addClass_of_none (h : t.addClass? o b = none) : t.addClass o b = (t, false) := by
  rw [addClass?_eq_none_iff, ← mem_classes_iff] at h
  exact addClass_of_mem h

lemma addClass_of_some (h : t.addClass? o b = some u) : t.addClass o b = (u, true) := by
  rw [addClass?] at h
  rcases ha : t.addClass o b with ⟨u', _ | _⟩
  · rw [ha] at h
    cases h
  · rw [ha] at h
    rw [Option.some.inj h]

lemma eq_of_addClass? (h : t.addClass? o b = some u) :
    Name.internal b ∉ t.classes ∧
      u = { t with
        classes := t.classes.insert (Name.internal b) (Name.internal o)
        methods := t.methods.insertIfNew (Name.internal o) ∅ } := by
  have hb : Name.internal b ∉ t.classes := by
    rw [mem_classes_iff, ← addClass?_eq_none_iff (o := o), h]
    simp
  have hadded := (addClass_of_some h).symm.trans (addClass_of_not_mem hb)
  exact ⟨hb, congrArg Prod.fst hadded⟩

lemma classes_addClass (h : t.addClass? o b = some u) (q : Text) :
    u.classes[q]? =
      t.classes[q]?.or (if Name.internal b = q then some (Name.internal o) else none) := by
  obtain ⟨hb, rfl⟩ := eq_of_addClass? h
  exact getElem?_insert_or hb q _

lemma packages_addClass (h : t.addClass? o b = some u) : u.packages = t.packages := by
  obtain ⟨-, rfl⟩ := eq_of_addClass? h
  rfl

lemma mem_methods_addClass (h : t.addClass? o b = some u) (c : Text) :
    c ∈ u.methods ↔ c ∈ t.methods ∨ Name.internal o = c := by
  obtain ⟨-, rfl⟩ := eq_of_addClass? h
  rw [Std.ExtTreeMap.mem_insertIfNew, or_comm, Std.LawfulEqOrd.compare_eq_iff_eq]

lemma method?_addClass (h : t.addClass? o b = some u) (c m : Text) :
    u.method? c m = t.method? c m := by
  obtain ⟨-, rfl⟩ := eq_of_addClass? h
  exact bind_insertIfNew_empty t.methods (Name.internal o) c m

lemma packages_addPackage (t : Table) (o b q : Text) :
    (t.addPackage o b).packages[q]? =
      t.packages[q]?.or (if Name.internal b = q then some (Name.internal o) else none) :=
  getElem?_insertIfNew_or t.packages _ q _

end Table

end Unmask
