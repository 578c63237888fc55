import Unmask.Proofs.Mapping.Calls

/-!
The tables that can come up, by calls and by loading files in any order, and what holds of all of
them: a class never has a real name without a method table, and no name of a class or package is in
display form.
-/

namespace Unmask.Table

open Mapping Name

/-- Calls are made of a new table, and a loaded table may take its place at any time. -/
inductive Session.Reachable : Session → Prop
  | new : Reachable {}
  | call {s} (before : Reachable s) (c : Call) : Reachable (s.step c)
  | load (packages : Bool) (source : Source) : Reachable ⟨(load packages source).2, none⟩
  | loadPath (open? : Opener) (packages : Bool) (path : Text) :
    Reachable ⟨(loadPath open? packages path).2, none⟩

lemma Session.Reachable.run {s : Session} (h : s.Reachable) (calls : List Call) :
    (s.run calls).Reachable := by
  induction calls generalizing s with
  | nil => exact h
  | cons c calls ih => exact ih (.call h c)

def Reachable (t : Table) : Prop := ∃ s : Session, s.Reachable ∧ s.table = t

/-- All names of classes and packages are in internal form, and just the real names of classes have
method tables. -/
structure WellFormed (t : Table) : Prop where
  methods : ∀ x, x ∈ t.methods ↔ ∃ b : Text, t.classes[b]? = some x
  class_internal : ∀ b x : Text, t.classes[b]? = some x → '.' ∉ b ∧ '.' ∉ x
  package_internal : ∀ b x : Text, t.packages[b]? = some x → '.' ∉ b ∧ '.' ∉ x

lemma wellFormed_new : WellFormed {} where
  methods x := by simp
  class_internal b x h := by simp at h
  package_internal b x h := by simp at h

lemma internal_of_named {o b q x : Text}
    (h : (if internal b = q then some (internal o) else none) = some x) : '.' ∉ q ∧ '.' ∉ x := by
  obtain ⟨rfl, rfl⟩ : internal b = q ∧ internal o = x := by simpa using h
  exact ⟨not_mem_internal b, not_mem_internal o⟩

lemma internal_of_class? {c : Call} {q x : Text} (h : c.class? q = some x) :
    '.' ∉ q ∧ '.' ∉ x := by
  cases c with
  | addClass o b => exact internal_of_named h
  | addMethod m d => cases h
  | addPackage o b => cases h

lemma internal_of_package? {c : Call} {q x : Text} (h : c.package? q = some x) :
    '.' ∉ q ∧ '.' ∉ x := by
  cases c with
  | addClass o b => cases h
  | addMethod m d => cases h
  | addPackage o b => exact internal_of_named h

variable {s : Session} {t : Table}

/-- A class gets its real name and the method table of that name at once, or neither. -/
lemma WellFormed.step (h : s.table.WellFormed) (c : Call) : (s.step c).table.WellFormed where
  methods x := by
    have hclass (q) : (s.step c).table.classes[q]? = some x ↔ s.table.classes[q]? = some x ∨
        (s.table.classes[q]? = none ∧ c.class? q = some x) := by
      rw [Session.classes_step, Option.or_eq_some_iff]
    rw [Session.mem_methods_step, h.methods]
    simp only [hclass, exists_or]
  class_internal q x hx := by
    rw [Session.classes_step, Option.or_eq_some_iff] at hx
    rcases hx with hx | ⟨-, hx⟩
    · exact h.class_internal q x hx
    · exact internal_of_class? hx
  package_internal q x hx := by
    rw [Session.packages_step, Option.or_eq_some_iff] at hx
    rcases hx with hx | ⟨-, hx⟩
    · exact h.package_internal q x hx
    · exact internal_of_package? hx

lemma wellFormed_after (calls : List Call) : (Session.after calls).table.WellFormed := by
  induction calls using List.reverseRecOn with
  | nil => exact wellFormed_new
  | append_singleton calls c ih =>
    rw [Session.after_snoc]
    exact ih.step c

lemma Session.Reachable.wellFormed (h : s.Reachable) : s.table.WellFormed := by
  induction h with
  | new => exact wellFormed_new
  | call _ c ih => exact ih.step c
  | load packages source =>
    obtain ⟨calls, hcalls⟩ := exists_calls_load packages source
    exact hcalls ▸ wellFormed_after calls
  | loadPath open? packages path =>
    obtain ⟨calls, hcalls⟩ := exists_calls_loadPath open? packages path
    exact hcalls ▸ wellFormed_after calls

lemma Reachable.wellFormed (h : t.Reachable) : t.WellFormed := by
  obtain ⟨s, hs, rfl⟩ := h
  exact hs.wellFormed

lemma wellFormed_of_read {packages : Bool} {source : Source}
    (h : (read packages source).2 = .ok t) : t.WellFormed := by
  have hload : (load packages source).2 = t := by rw [load_snd, h]
  have hreachable : (Session.mk t none).Reachable := hload ▸ .load packages source
  exact hreachable.wellFormed

/-- The name that a class goes by, in internal form: its real name if it is mapped. -/
def nameOf (t : Table) (n : Text) : Text := (t.realClass? n).getD (internal n)

lemma WellFormed.not_mem_nameOf (h : t.WellFormed) (n : Text) : '.' ∉ t.nameOf n := by
  rw [nameOf]
  rcases hn : t.realClass? n with _ | x
  · exact not_mem_internal n
  · exact (h.class_internal _ x hn).2

/-- The methods of a class are looked up under the name that the class goes by. -/
lemma WellFormed.internal_owner (h : t.WellFormed) (n : Text) :
    internal ((t.realClass? n).getD n) = t.nameOf n := by
  rw [nameOf]
  rcases hn : t.realClass? n with _ | x
  · rfl
  · exact internal_eq_self (h.class_internal _ x hn).2

/-- A table is told by its answers: method tables that answer nothing are there just for the real
names of classes. -/
lemma WellFormed.ext {u : Table} (h : t.WellFormed) (hu : u.WellFormed)
    (hc : ∀ q : Text, t.classes[q]? = u.classes[q]?)
    (hp : ∀ q : Text, t.packages[q]? = u.packages[q]?)
    (hm : ∀ c m, t.method? c m = u.method? c m) : t = u := by
  have hclasses : t.classes = u.classes := Std.ExtTreeMap.ext_getElem? fun {q} => hc q
  have hpackages : t.packages = u.packages := Std.ExtTreeMap.ext_getElem? fun {q} => hp q
  have hmethods : t.methods = u.methods := by
    refine Std.ExtTreeMap.ext_getElem? fun {c} => ?_
    have hmem : t.methods[c]?.isSome ↔ u.methods[c]?.isSome := by
      rw [Std.ExtTreeMap.isSome_getElem?_iff_mem, Std.ExtTreeMap.isSome_getElem?_iff_mem,
        h.methods, hu.methods, hclasses]
    have hanswer := hm c
    unfold method? at hanswer
    rcases ht : t.methods[c]? with _ | ms <;> rcases hu' : u.methods[c]? with _ | ms'
    · rfl
    · simp [ht, hu'] at hmem
    · simp [ht, hu'] at hmem
    · rw [ht, hu'] at hanswer
      exact congrArg some (Std.ExtTreeMap.ext_getElem? fun {m} => hanswer m)
  rcases t with ⟨cs, ps, ms⟩
  rcases u with ⟨cs', ps', ms'⟩
  simp only at hclasses hpackages hmethods
  rw [hclasses, hpackages, hmethods]

/-- Without classes there are no method tables. -/
lemma WellFormed.isEmpty_iff (h : t.WellFormed) :
    t.isEmpty ↔ t.classes.size = 0 ∧ t.packages.size = 0 := by
  have hm : t.classes = ∅ → t.methods = ∅ := by
    intro hc
    rw [Std.ExtTreeMap.eq_empty_iff_forall_not_mem]
    intro x hx
    obtain ⟨b, hb⟩ := (h.methods x).1 hx
    rw [hc, Std.ExtTreeMap.getElem?_empty] at hb
    cases hb
  rw [← Std.ExtTreeMap.eq_empty_iff_size_eq_zero, ← Std.ExtTreeMap.eq_empty_iff_size_eq_zero]
  simp only [isEmpty, Bool.and_eq_true, Std.ExtTreeMap.isEmpty_iff]
  exact ⟨fun ⟨he, _⟩ => he, fun he => ⟨he, hm he.1⟩⟩

/-- **Every table that can come up is well formed**, whatever was called and loaded: the keys of
its method tables are the real names of its classes, and all its names of classes and packages are
in internal form. So it is empty just if it maps no class and no package, and every real name that
is answered has a method table. -/
theorem wellFormed_of_reachable (h : t.Reachable) :
    (∀ x, x ∈ t.methods ↔ ∃ b : Text, t.classes[b]? = some x) ∧
    (∀ b x : Text, t.classes[b]? = some x → '.' ∉ b ∧ '.' ∉ x) ∧
    (∀ b x : Text, t.packages[b]? = some x → '.' ∉ b ∧ '.' ∉ x) ∧
    (∀ x ∈ t.methods, '.' ∉ x) ∧
    (t.isEmpty ↔ t.classes.size = 0 ∧ t.packages.size = 0) ∧
    ∀ n x, t.realClass? n = some x → x ∈ t.methods := by
  have hw := h.wellFormed
  refine ⟨hw.methods, hw.class_internal, hw.package_internal, fun x hx => ?_, hw.isEmpty_iff,
    fun n x hx => ?_⟩
  · obtain ⟨b, hb⟩ := (hw.methods x).1 hx
    exact (hw.class_internal b x hb).2
  · exact (hw.methods x).2 ⟨internal n, hx⟩

/-- A loaded table that is built on: its class is refused once more, and shares its real name. -/
def builtOn : Session :=
  (Session.mk (load true (.bytes (Text.Utf8.encode "p.S -> a.b:\n".toList))).2 none).run
    [.addClass ['q'] "a/b".toList, .addClass "p/S".toList ['c'], .addMethod ['m'] ['r', 'u', 'n']]

theorem builtOn_wellFormed :
    builtOn.table.Reachable ∧
    (∀ x, x ∈ builtOn.table.methods ↔ ∃ b : Text, builtOn.table.classes[b]? = some x) ∧
    (∀ x ∈ builtOn.table.methods, '.' ∉ x) ∧
    (builtOn.table.isEmpty ↔ builtOn.table.classes.size = 0 ∧ builtOn.table.packages.size = 0) ∧
    builtOn.table.realClass? ['c'] = some "p/S".toList ∧ "p/S".toList ∈ builtOn.table.methods := by
  have h : builtOn.table.Reachable :=
    ⟨builtOn, (Session.Reachable.load true _).run _, rfl⟩
  have hc : builtOn.table.realClass? ['c'] = some "p/S".toList := by decide
  obtain ⟨hm, -, -, hdots, hempty, hreal⟩ := wellFormed_of_reachable h
  exact ⟨h, hm, hdots, hempty, hc, hreal _ _ hc⟩

end Unmask.Table
