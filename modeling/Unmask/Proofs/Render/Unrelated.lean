import Unmask.Proofs.Descriptor.Renamed
import Unmask.Proofs.Table.Reachable
import Unmask.Render.Method

/-!
What a method is shown by, of all that is in a table: the real names of the classes in its
signature and of its own class, and the methods that are filed under the name its class goes by.
Calls that are about other classes leave it as it is.
-/

namespace Unmask

namespace Table

/-- The tables say the same of the classes in `names`, and of the methods filed under `owner`. -/
structure AgreeOn (names : List Text) (owner : Text) (t u : Table) : Prop where
  classes : ∀ x ∈ names, u.realClass? x = t.realClass? x
  methods : ∀ m, u.method? owner m = t.method? owner m

/-- The call maps none of the classes in `names`, and gives no class the real name `owner`. -/
def Call.Spares (names : List Text) (owner : Text) : Call → Prop
  | addClass real obfuscated =>
    (∀ x ∈ names, Name.internal obfuscated ≠ Name.internal x) ∧ Name.internal real ≠ owner
  | addMethod _ _ => True
  | addPackage _ _ => True

instance (names : List Text) (owner : Text) : (c : Call) → Decidable (c.Spares names owner)
  | .addClass _ _ => inferInstanceAs (Decidable (_ ∧ _))
  | .addMethod _ _ => .isTrue trivial
  | .addPackage _ _ => .isTrue trivial

variable {names : List Text} {owner : Text} {t u : Table} {s : Session}

lemma AgreeOn.refl (t : Table) : AgreeOn names owner t t := ⟨fun _ _ => rfl, fun _ => rfl⟩

lemma AgreeOn.trans {v : Table} (h : AgreeOn names owner t u) (h' : AgreeOn names owner u v) :
    AgreeOn names owner t v where
  classes x hx := (h'.classes x hx).trans (h.classes x hx)
  methods m := (h'.methods m).trans (h.methods m)

/-- A method that is filed under one name is not found under another. -/
lemma method?_addMethod_of_ne {o : Text} (h : Name.internal o ≠ owner) (t : Table) (m d m' : Text) :
    (t.addMethod o m d).method? owner m' = t.method? owner m' := by
  rw [method?, addMethod, Std.ExtTreeMap.getElem?_modify, if_neg (by simpa using h), method?]

/-! ### Calls about other classes -/

lemma Call.Spares.class?_eq_none {c : Call} (h : c.Spares names owner) {x : Text}
    (hx : x ∈ names) : c.class? (Name.internal x) = none := by
  cases c with
  | addClass o b => exact if_neg (h.1 x hx)
  | addMethod m d => rfl
  | addPackage o b => rfl

lemma agreeOn_step (hlent : ∀ o ∈ s.lent, Name.internal o ≠ owner) {c : Call}
    (hc : c.Spares names owner) : AgreeOn names owner s.table (s.step c).table where
  classes x hx := by
    rw [realClass?, Session.classes_step, hc.class?_eq_none hx, Option.or_none, realClass?]
  methods m := by
    cases c with
    | addClass o b =>
      rcases ha : s.table.addClass? o b with _ | t
      · rw [Session.step_addClass_of_none ha]
      · rw [Session.step_addClass_of_some ha]
        exact method?_addClass ha owner m
    | addMethod m' d =>
      rcases hl : s.lent with _ | o
      · rw [Session.step_addMethod_of_none hl]
      · rw [Session.step_addMethod_of_some hl]
        exact method?_addMethod_of_ne (hlent o hl) s.table m' d m
    | addPackage o b => rfl

/-- Nor is the method table of the owner lent out then. -/
lemma Session.lent_step_ne (hlent : ∀ o ∈ s.lent, Name.internal o ≠ owner) {c : Call}
    (hc : c.Spares names owner) : ∀ o ∈ (s.step c).lent, Name.internal o ≠ owner := by
  intro x hx
  cases c with
  | addClass o b =>
    rcases ha : s.table.addClass? o b with _ | t
    · rw [step_addClass_of_none ha] at hx
      cases hx
    · rw [step_addClass_of_some ha] at hx
      obtain rfl := Option.some.inj hx
      exact hc.2
  | addMethod m d =>
    rcases hl : s.lent with _ | o
    · rw [step_addMethod_of_none hl] at hx
      exact hlent x hx
    · rw [step_addMethod_of_some hl] at hx
      obtain rfl := Option.some.inj hx
      exact hlent o hl
  | addPackage o b => cases hx

lemma agreeOn_run (hlent : ∀ o ∈ s.lent, Name.internal o ≠ owner) {calls : List Call}
    (hcalls : ∀ c ∈ calls, c.Spares names owner) :
    AgreeOn names owner s.table (s.run calls).table := by
  induction calls generalizing s with
  | nil => exact .refl _
  | cons c calls ih =>
    rw [List.forall_mem_cons] at hcalls
    rw [Session.run_cons]
    exact (agreeOn_step hlent hcalls.1).trans (ih (s.lent_step_ne hlent hcalls.1) hcalls.2)

/-- A table that maps none of the classes, and none to the name `owner`, has nothing to say. -/
lemma WellFormed.agreeOn_empty (h : t.WellFormed)
    (hnames : ∀ x ∈ names, Name.internal x ∉ t.classes)
    (howner : ∀ b x : Text, t.classes[b]? = some x → x ≠ owner) : AgreeOn names owner {} t where
  classes x hx := by
    rw [realClass?, Std.ExtTreeMap.getElem?_eq_none (hnames x hx)]
    rfl
  methods m := by
    -- there is a method table just for the real names of classes
    have hnone : owner ∉ t.methods := by
      rw [h.methods]
      rintro ⟨b, hb⟩
      exact howner b owner hb rfl
    rw [method?, Std.ExtTreeMap.getElem?_eq_none hnone]
    rfl

end Table

namespace Render

open Table (AgreeOn Session Call)

variable {names : List Text} {owner : Text} {t u : Table}

/-! ### What is shown -/

lemma showClass_congr (h : AgreeOn names owner t u) {x : Text} (hx : x ∈ names) (q : Bool) :
    u.showClass x q = t.showClass x q := by
  rw [Table.showClass, h.classes x hx, Table.showClass]

lemma type_congr (h : AgreeOn names owner t u) {ty : JavaType}
    (hty : ∀ x ∈ ty.className?, x ∈ names) (q : Bool) : type u q ty = type t q ty := by
  induction ty with
  | primitive p => rfl
  | object name => exact showClass_congr h (hty name rfl) q
  | array element ih => rw [type, ih hty, type]

lemma arguments_congr (h : AgreeOn names owner t u) {ps : List JavaType}
    (hps : ∀ p ∈ ps, ∀ x ∈ p.className?, x ∈ names) (l : Layout) :
    arguments u l ps = arguments t l ps := by
  have hmap : ps.map (type u l.qualifyArguments) = ps.map (type t l.qualifyArguments) :=
    List.map_congr_left fun p hp => type_congr h (hps p hp) _
  simp only [arguments, hmap]

/-- A method is shown alike by tables that agree on its classes and on the methods of its own. -/
lemma signature_congr {c : Text} {sig : Signature}
    (h : AgreeOn (c :: sig.classNames) owner t u)
    (howner : Name.internal ((t.realClass? c).getD c) = owner) (l : Layout) (m : Text) :
    signature u l c m sig = signature t l c m sig := by
  have hreturn (q) : type u q sig.returnType = type t q sig.returnType :=
    type_congr h
      (fun x hx => List.mem_cons_of_mem _ (Signature.mem_classNames_of_returnType hx)) q
  have harguments : arguments u l sig.parameters = arguments t l sig.parameters :=
    arguments_congr h
      (fun p hp x hx => List.mem_cons_of_mem _ (Signature.mem_classNames_of_parameter hp hx)) l
  have hclass := h.classes c List.mem_cons_self
  have hmethod : u.showMethod ((u.realClass? c).getD c) m =
      t.showMethod ((t.realClass? c).getD c) m := by
    rw [hclass, Table.showMethod, Table.showMethod, Table.declaration?_eq, Table.declaration?_eq,
      howner, h.methods]
  simp only [signature, hreturn, harguments, showClass_congr h List.mem_cons_self, hmethod]

/-- **Unrelated mappings do not matter.** Calls that map neither the class of a method nor one in
its signature, and give no class the name that its own goes by, leave what is shown of the method
as it is, whatever methods and packages they add. A method table that is lent out at first has to
be that of another class, too. So a table that maps none of these classes, and no class to that of
the method, shows the method as it is shown without a table. -/
theorem unrelated_irrelevant (l : Layout) (c m : Text) (sig : Signature) :
    (∀ (s : Session) (calls : List Call), s.table.Reachable →
      (∀ o ∈ s.lent, Name.internal o ≠ s.table.nameOf c) →
      (∀ call ∈ calls, call.Spares (c :: sig.classNames) (s.table.nameOf c)) →
        signature (s.run calls).table l c m sig = signature s.table l c m sig) ∧
    ∀ t : Table, t.Reachable → (∀ x ∈ c :: sig.classNames, Name.internal x ∉ t.classes) →
      (∀ b x : Text, t.classes[b]? = some x → x ≠ Name.internal c) →
        signature t l c m sig = signature {} l c m sig := by
  refine ⟨fun s calls hs hlent hcalls => ?_, fun t ht hnames howner => ?_⟩
  · exact signature_congr (Table.agreeOn_run hlent hcalls) (hs.wellFormed.internal_owner c) l m
  · exact signature_congr (ht.wellFormed.agreeOn_empty hnames howner) rfl l m

/-- A class with a method. -/
def settled : Table :=
  (Session.after [.addClass "x.S".toList ['a'], .addMethod ['m'] ['r', 'u', 'n']]).table

/-- Another class, with a method that has the same obfuscated name. -/
def besides : List Call :=
  [.addClass "x/T".toList ['c'], .addMethod ['m'] ['g', 'o'], .addPackage ['x'] ['a']]

theorem unrelated_besides :
    (∀ l, signature ((Session.mk settled none).run besides).table l ['a'] ['m']
        ⟨[.object ['b']], .primitive .void⟩ =
      signature settled l ['a'] ['m'] ⟨[.object ['b']], .primitive .void⟩) ∧
    ∀ l, signature settled l ['d'] ['m'] ⟨[.object ['b']], .primitive .void⟩ =
      signature {} l ['d'] ['m'] ⟨[.object ['b']], .primitive .void⟩ := by
  have ht : settled.Reachable := ⟨_, Session.Reachable.new.run _, rfl⟩
  constructor
  · intro l
    exact (unrelated_irrelevant l ['a'] ['m'] _).1 ⟨settled, none⟩ besides ht (by simp) (by decide)
  · intro l
    refine (unrelated_irrelevant l ['d'] ['m'] _).2 settled ht (by decide) fun b x hx => ?_
    rw [settled, Session.classes_after] at hx
    obtain ⟨call, hmem, hcall⟩ := List.exists_of_findSome?_eq_some hx
    simp only [List.mem_cons, List.not_mem_nil, or_false] at hmem
    rcases hmem with rfl | rfl
    · obtain ⟨-, rfl⟩ : Name.internal ['a'] = b ∧ Name.internal "x.S".toList = x := by
        simpa [Call.class?] using hcall
      decide
    · cases hcall

end Render

end Unmask
