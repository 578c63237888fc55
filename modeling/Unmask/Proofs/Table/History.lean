import Mathlib.Data.List.Induction
import Unmask.Proofs.Mapping.Answers
import Unmask.Proofs.Table.Lookup

/-!
Tables that are built by calls, in any order and number. A class that is added lends out the method
table of its real name, and methods are added to the one that is lent out; any other call ends the
loan. Whatever the history, the table answers with what was said first.
-/

namespace Unmask.Table

open Mapping (Answers Settled answers_none)
open Name

inductive Call
  | addClass (real obfuscated : Text)
  /-- Adds to the method table that is lent out. -/
  | addMethod (obfuscated declaration : Text)
  | addPackage (real obfuscated : Text)
  deriving DecidableEq, Repr

/-- A table, and the real name of the class whose method table is lent out. -/
structure Session where
  table : Table := {}
  lent : Option Text := none

namespace Session

def step (s : Session) : Call → Session
  | .addClass real obfuscated =>
    match s.table.addClass real obfuscated with
    | (t, true) => ⟨t, some real⟩
    | (t, false) => ⟨t, none⟩
  | .addMethod obfuscated declaration =>
    match s.lent with
    | some real => ⟨s.table.addMethod real obfuscated declaration, some real⟩
    | none => s
  | .addPackage real obfuscated => ⟨s.table.addPackage real obfuscated, none⟩

def run (s : Session) (calls : List Call) : Session := calls.foldl step s

/-- What a new table has become when the calls were made. -/
def after (calls : List Call) : Session := run {} calls

@[simp] lemma run_nil (s : Session) : s.run [] = s := rfl

@[simp] lemma run_cons (s : Session) (c : Call) (calls : List Call) :
    s.run (c :: calls) = (s.step c).run calls := rfl

lemma run_append (s : Session) (calls more : List Call) :
    s.run (calls ++ more) = (s.run calls).run more := by
  simp [run, List.foldl_append]

lemma after_snoc (calls : List Call) (c : Call) : after (calls ++ [c]) = (after calls).step c := by
  simp [after, run_append]

end Session

/-! ### What the calls say -/

namespace Call

/-- The real name that the call gives to the class `q`, both in internal form. -/
def class? (q : Text) : Call → Option Text
  | addClass real obfuscated => if internal obfuscated = q then some (internal real) else none
  | _ => none

/-- The real name that the call gives to the package `q`, both in internal form. -/
def package? (q : Text) : Call → Option Text
  | addPackage real obfuscated => if internal obfuscated = q then some (internal real) else none
  | _ => none

/-- The declaration that the call gives to the method `m` of `c`, while the method table of `lent`
is lent out. -/
def method? (lent : Option Text) (c m : Text) : Call → Option Text
  | addMethod obfuscated declaration =>
    if lent.map internal = some c ∧ obfuscated = m then some declaration else none
  | _ => none

end Call

/-- After the calls the method table of the class with this real name is lent out: it was lent for
an obfuscated name that was new, and nothing but methods was added since. -/
inductive Lends : List Call → Text → Prop
  | addClass {calls o b} (new : ∀ o' b', Call.addClass o' b' ∈ calls → internal b' ≠ internal b) :
    Lends (calls ++ [.addClass o b]) o
  | addMethod {calls o m d} (lent : Lends calls o) : Lends (calls ++ [.addMethod m d]) o

/-- Call `i` adds the method `m` to a method table of the class with the real name `c`. -/
def AddsMethod (c m : Text) (calls : List Call) (i : Nat) (d : Text) : Prop :=
  calls[i]? = some (.addMethod m d) ∧ ∃ o, Lends (calls.take i) o ∧ internal o = c

/-- What `t` answers, `u` answers too. -/
structure Extends (t u : Table) : Prop where
  realClass : ∀ n x, t.realClass? n = some x → u.realClass? n = some x
  realPackage : ∀ n x, t.realPackage? n = some x → u.realPackage? n = some x
  declaration : ∀ c m d, t.declaration? c m = some d → u.declaration? c m = some d

lemma settled_addsMethod (c m : Text) : Settled (AddsMethod c m) where
  append {ls more i d} h := by
    unfold AddsMethod
    rw [List.getElem?_append_left h, List.take_append_of_le_length (by omega)]
  lt := fun ⟨h, _⟩ => (List.getElem?_eq_some_iff.1 h).1

/-! ### One call -/

namespace Session

variable {s : Session} {o b m d : Text}

lemma step_addClass_of_some {t : Table} (h : s.table.addClass? o b = some t) :
    s.step (.addClass o b) = ⟨t, some o⟩ := by
  simp [step, addClass_of_some h]

/-- A class that is refused leaves the table as it is. -/
lemma step_addClass_of_none (h : s.table.addClass? o b = none) :
    s.step (.addClass o b) = ⟨s.table, none⟩ := by
  simp [step, addClass_of_none h]

lemma step_addMethod_of_some (h : s.lent = some o) :
    s.step (.addMethod m d) = ⟨s.table.addMethod o m d, some o⟩ := by
  simp [step, h]

lemma step_addMethod_of_none (h : s.lent = none) : s.step (.addMethod m d) = s := by
  simp [step, h]

lemma step_addPackage : s.step (.addPackage o b) = ⟨s.table.addPackage o b, none⟩ := rfl

lemma classes_step (s : Session) (c : Call) (q : Text) :
    (s.step c).table.classes[q]? = s.table.classes[q]?.or (c.class? q) := by
  cases c with
  | addClass o b =>
    rcases h : s.table.addClass? o b with _ | t
    · rw [step_addClass_of_none h]
      rw [addClass?_eq_none_iff] at h
      obtain ⟨x, hx⟩ := Option.isSome_iff_exists.1 h
      by_cases hq : internal b = q
      · subst hq
        rw [show s.table.classes[internal b]? = some x from hx]
        rfl
      · simp [Call.class?, hq]
    · rw [step_addClass_of_some h]
      exact classes_addClass h q
  | addMethod m d =>
    rcases h : s.lent with _ | o
    · simp [step_addMethod_of_none h, Call.class?]
    · simp [step_addMethod_of_some h, Call.class?, classes_addMethod]
  | addPackage o b => simp [step_addPackage, Call.class?, addPackage]

lemma packages_step (s : Session) (c : Call) (q : Text) :
    (s.step c).table.packages[q]? = s.table.packages[q]?.or (c.package? q) := by
  cases c with
  | addClass o b =>
    rcases h : s.table.addClass? o b with _ | t
    · simp [step_addClass_of_none h, Call.package?]
    · simp [step_addClass_of_some h, Call.package?, packages_addClass h]
  | addMethod m d =>
    rcases h : s.lent with _ | o
    · simp [step_addMethod_of_none h, Call.package?]
    · simp [step_addMethod_of_some h, Call.package?, packages_addMethod]
  | addPackage o b => exact packages_addPackage s.table o b q

/-- A class that is added for a free name has a method table from then on. -/
lemma mem_methods_step (s : Session) (c : Call) (x : Text) :
    x ∈ (s.step c).table.methods ↔
      x ∈ s.table.methods ∨ ∃ q, s.table.classes[q]? = none ∧ c.class? q = some x := by
  cases c with
  | addClass o b =>
    have hclass (q) : (Call.addClass o b).class? q = some x ↔ internal b = q ∧ internal o = x := by
      simp [Call.class?]
    simp only [hclass]
    rcases h : s.table.addClass? o b with _ | t
    · rw [step_addClass_of_none h]
      rw [addClass?_eq_none_iff, realClass?, Option.isSome_iff_ne_none] at h
      refine ⟨Or.inl, fun hx => hx.resolve_right ?_⟩
      rintro ⟨q, hq, rfl, -⟩
      exact h hq
    · rw [step_addClass_of_some h, mem_methods_addClass h]
      have hfree := Std.ExtTreeMap.getElem?_eq_none (eq_of_addClass? h).1
      refine or_congr_right ⟨fun hx => ⟨internal b, hfree, rfl, hx⟩, ?_⟩
      rintro ⟨q, -, -, hx⟩
      exact hx
  | addMethod m d =>
    have hnone (q) : (Call.addMethod m d).class? q = none := rfl
    rcases h : s.lent with _ | o
    · simp [step_addMethod_of_none h, hnone]
    · simp [step_addMethod_of_some h, hnone, mem_methods_addMethod]
  | addPackage o b =>
    have hnone (q) : (Call.addPackage o b).class? q = none := rfl
    simp [step_addPackage, hnone, addPackage]

/-- The class whose method table is lent out has one. -/
def Filed (s : Session) : Prop := ∀ o, s.lent = some o → internal o ∈ s.table.methods

lemma Filed.step (h : s.Filed) (c : Call) : (s.step c).Filed := by
  intro x hx
  cases c with
  | addClass o b =>
    rcases ha : s.table.addClass? o b with _ | t
    · rw [step_addClass_of_none ha] at hx
      cases hx
    · rw [step_addClass_of_some ha] at hx ⊢
      obtain rfl := Option.some.inj hx
      exact (mem_methods_addClass ha _).2 (Or.inr rfl)
  | addMethod m d =>
    rcases hl : s.lent with _ | o
    · rw [step_addMethod_of_none hl] at hx ⊢
      exact h x hx
    · rw [step_addMethod_of_some hl] at hx ⊢
      obtain rfl := Option.some.inj hx
      exact mem_methods_addMethod.2 (h o hl)
  | addPackage o b => cases hx

lemma method?_step (h : s.Filed) (call : Call) (c m : Text) :
    (s.step call).table.method? c m = (s.table.method? c m).or (call.method? s.lent c m) := by
  cases call with
  | addClass o b =>
    rcases ha : s.table.addClass? o b with _ | t
    · simp [step_addClass_of_none ha, Call.method?]
    · simp [step_addClass_of_some ha, Call.method?, method?_addClass ha]
  | addMethod m' d =>
    rcases hl : s.lent with _ | o
    · simp [step_addMethod_of_none hl, Call.method?]
    · simp [step_addMethod_of_some hl, Call.method?, method?_addMethod (h o hl)]
  | addPackage o b =>
    rw [step_addPackage, show (Call.addPackage o b).method? s.lent c m = none from rfl,
      Option.or_none]
    rfl

/-- No call takes an answer back. -/
lemma extends_step (h : s.Filed) (call : Call) : s.table.Extends (s.step call).table where
  realClass n x hx := by
    rw [realClass?, classes_step, show s.table.classes[internal n]? = some x from hx]
    rfl
  realPackage n x hx := by
    rw [realPackage?, packages_step, show s.table.packages[internal n]? = some x from hx]
    rfl
  declaration c m d hd := by
    rw [declaration?_eq] at hd ⊢
    rw [method?_step h, hd]
    rfl

/-! ### Any number of calls -/

lemma filed_after (calls : List Call) : (after calls).Filed := by
  induction calls using List.reverseRecOn with
  | nil => intro o ho; cases ho
  | append_singleton calls c ih =>
    rw [after_snoc]
    exact ih.step c

/-- A lookup that each call can only fill gives what the first call said of it. -/
lemma lookup_after (view : Session → Option Text) (said : Call → Option Text)
    (hnew : view {} = none) (hstep : ∀ s c, view (s.step c) = (view s).or (said c))
    (calls : List Call) : view (after calls) = calls.findSome? said := by
  induction calls using List.reverseRecOn with
  | nil => exact hnew
  | append_singleton calls c ih =>
    rw [after_snoc, hstep, ih, List.findSome?_append, List.findSome?_singleton]

lemma classes_after (calls : List Call) (q : Text) :
    (after calls).table.classes[q]? = calls.findSome? (Call.class? q) :=
  lookup_after (fun s => s.table.classes[q]?) _ Std.ExtTreeMap.getElem?_empty
    (fun s c => classes_step s c q) calls

lemma packages_after (calls : List Call) (q : Text) :
    (after calls).table.packages[q]? = calls.findSome? (Call.package? q) :=
  lookup_after (fun s => s.table.packages[q]?) _ Std.ExtTreeMap.getElem?_empty
    (fun s c => packages_step s c q) calls

/-- A name is free just if no class was added for it. -/
lemma classes_after_eq_none_iff {calls : List Call} {q : Text} :
    (after calls).table.classes[q]? = none ↔ ∀ o b, Call.addClass o b ∈ calls → internal b ≠ q := by
  rw [classes_after, List.findSome?_eq_none_iff]
  constructor
  · intro h o b hmem hq
    have := h _ hmem
    simp [Call.class?, hq] at this
  · intro h c hmem
    cases c with
    | addClass o b => simp [Call.class?, h o b hmem]
    | addMethod m d => rfl
    | addPackage o b => rfl

lemma lends_concat_iff {calls : List Call} {c : Call} {x : Text} :
    Lends (calls ++ [c]) x ↔
      match c with
      | .addClass o b => o = x ∧ ∀ o' b', Call.addClass o' b' ∈ calls → internal b' ≠ internal b
      | .addMethod _ _ => Lends calls x
      | .addPackage _ _ => False := by
  constructor
  · intro h
    generalize he : calls ++ [c] = all at h
    cases h with
    | addClass new =>
      obtain ⟨rfl, hc⟩ := List.append_inj' he rfl
      obtain rfl := List.singleton_inj.1 hc
      exact ⟨rfl, new⟩
    | addMethod lent =>
      obtain ⟨rfl, hc⟩ := List.append_inj' he rfl
      obtain rfl := List.singleton_inj.1 hc
      exact lent
  · intro h
    cases c with
    | addClass o b =>
      obtain ⟨rfl, new⟩ := h
      exact .addClass new
    | addMethod m d => exact .addMethod h
    | addPackage o b => exact h.elim

lemma lent_after (calls : List Call) (x : Text) :
    (after calls).lent = some x ↔ Lends calls x := by
  induction calls using List.reverseRecOn with
  | nil =>
    refine ⟨fun h => (by cases h), fun h => ?_⟩
    generalize he : ([] : List Call) = all at h
    cases h <;> simp at he
  | append_singleton calls c ih =>
    rw [after_snoc, lends_concat_iff]
    cases c with
    | addClass o b =>
      have hnew : (after calls).table.classes[internal b]? = none ↔
          ∀ o' b', Call.addClass o' b' ∈ calls → internal b' ≠ internal b :=
        classes_after_eq_none_iff
      rcases h : (after calls).table.addClass? o b with _ | t
      · rw [step_addClass_of_none h]
        rw [addClass?_eq_none_iff, realClass?, Option.isSome_iff_ne_none, ne_eq, hnew] at h
        simp [h]
      · rw [step_addClass_of_some h]
        have hfree : (after calls).table.classes[internal b]? = none :=
          Std.ExtTreeMap.getElem?_eq_none (eq_of_addClass? h).1
        have hall := hnew.1 hfree
        simpa using fun _ => hall
    | addMethod m d =>
      rw [← ih]
      rcases h : (after calls).lent with _ | o
      · simp [step_addMethod_of_none h, h]
      · simp [step_addMethod_of_some h]
    | addPackage o b => simp [step_addPackage]

lemma methods_after (calls : List Call) (c m : Text) :
    Answers ((after calls).table.method? c m) (AddsMethod c m calls) := by
  induction calls using List.reverseRecOn with
  | nil =>
    rw [show (after []).table.method? c m = none from rfl]
    exact answers_none fun i d h => absurd ((settled_addsMethod c m).lt h) (by simp)
  | append_singleton calls call ih =>
    rw [after_snoc, method?_step (filed_after calls)]
    refine ih.snoc (settled_addsMethod c m) fun d => ?_
    -- the call is heard if it adds the method while a table of the class is lent out
    have hlent : (∃ o, Lends calls o ∧ internal o = c) ↔
        (after calls).lent.map internal = some c := by
      simp [← lent_after]
    simp only [AddsMethod, List.getElem?_concat_length, List.take_left', Option.some.injEq, hlent]
    cases call with
    | addClass o b => simp [Call.method?]
    | addMethod m' d' =>
      simp only [Call.method?, Option.ite_none_right_eq_some, Option.some.injEq,
        Call.addMethod.injEq]
      constructor
      · rintro ⟨⟨hl, hm⟩, hd⟩
        exact ⟨⟨hm, hd⟩, hl⟩
      · rintro ⟨⟨hm, hd⟩, hl⟩
        exact ⟨⟨hl, hm⟩, hd⟩
    | addPackage o b => simp [Call.method?]

/-- **The first word counts.** After any history of calls a class or package has the real name
that the first call for it gave, and a method the declaration that was first added for it to a
method table of its class, whichever obfuscated name of the class that was lent for. A class is
refused just if its obfuscated name is mapped, and then nothing changes; and no call takes an answer
back. -/
theorem after_answers (calls : List Call) :
    (∀ n, (after calls).table.realClass? n = calls.findSome? (Call.class? (internal n))) ∧
    (∀ n, (after calls).table.realPackage? n = calls.findSome? (Call.package? (internal n))) ∧
    (∀ c m, Answers ((after calls).table.declaration? c m) (AddsMethod (internal c) m calls)) ∧
    (∀ o b, ((after calls).table.addClass o b).2 = false ↔
      ((after calls).table.realClass? b).isSome) ∧
    (∀ o b, ((after calls).table.addClass o b).2 = false →
      ((after calls).table.addClass o b).1 = (after calls).table ∧
      (after (calls ++ [.addClass o b])).table = (after calls).table) ∧
    ∀ call, (after calls).table.Extends (after (calls ++ [call])).table := by
  refine ⟨fun n => classes_after calls _, fun n => packages_after calls _, fun c m => ?_,
    fun o b => addClass_snd_eq_false_iff, fun o b h => ⟨addClass_fst_of_refused h, ?_⟩,
    fun call => ?_⟩
  · rw [declaration?_eq]
    exact methods_after calls (internal c) m
  · have hnone : (after calls).table.addClass? o b = none :=
      addClass?_eq_none_iff.2 (addClass_snd_eq_false_iff.1 h)
    rw [after_snoc, step_addClass_of_none hnone]
  · rw [after_snoc]
    exact extends_step (filed_after calls) call

/-- Two names of one class share a method table. -/
example :
    (after [.addClass ['S'] ['a'], .addMethod ['m'] ['r', 'u', 'n'], .addClass ['S'] ['b'],
      .addMethod ['m'] ['g', 'o']]).table.declaration? ['S'] ['m'] = some ['r', 'u', 'n'] := by
  decide

end Session

end Unmask.Table
