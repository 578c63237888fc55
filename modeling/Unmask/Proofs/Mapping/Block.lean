import Mathlib.Data.List.Nodup
import Unmask.Proofs.Mapping.Packages
import Unmask.Proofs.Table.Reachable

/-!
Blocks of a mapping file: a class line with the members below it. As long as every block has an
obfuscated name of its own, nothing is reported, and what a table answers is what the first block
says that says anything.
-/

namespace Unmask.Mapping

open Name

/-- A class with its methods, each by its obfuscated name and its declaration. -/
structure ClassBlock where
  real : Text
  obfuscated : Text
  methods : List (Text × Text)

namespace Entry

def isMember : Entry → Bool
  | member .. => true
  | _ => false

def method? : Entry → Option (Text × Text)
  | member (.method declaration) obfuscated => some (obfuscated, declaration)
  | _ => none

end Entry

namespace ClassBlock

/-- The block that the entries are, a class line and members. -/
def ofEntries? : List Entry → Option ClassBlock
  | .classLine _ _ real obfuscated :: es =>
    if es.all Entry.isMember then some ⟨real, obfuscated, es.filterMap Entry.method?⟩ else none
  | _ => none

/-- The real name that the block gives to the class `q`. -/
def class? (q : Text) (k : ClassBlock) : Option Text :=
  if internal k.obfuscated = q then some (internal k.real) else none

/-- The real name that the block gives to the package `q`, if packages are derived. -/
def package? (packages : Bool) (q : Text) (k : ClassBlock) : Option Text :=
  if packages then
    (packagesOf? k.real k.obfuscated).bind fun r => if r.2 = q then some r.1 else none
  else none

/-- The declaration that the block gives to the method `m` of the class `c`. -/
def method? (c m : Text) (k : ClassBlock) : Option Text :=
  if internal k.real = c then k.methods.lookup m else none

lemma package?_eq_some_iff {packages : Bool} {q x : Text} {k : ClassBlock} :
    k.package? packages q = some x ↔
      packages = true ∧ packagesOf? k.real k.obfuscated = some (x, q) := by
  unfold package?
  cases packages
  · simp
  · rcases packagesOf? k.real k.obfuscated with _ | ⟨y, z⟩
    · simp
    · by_cases hz : z = q <;> simp [hz]

end ClassBlock

/-- The table answers what the first block says that says anything. -/
structure ToldBy (packages : Bool) (ks : List ClassBlock) (t : Table) : Prop where
  classes : ∀ q, t.classes[q]? = ks.findSome? (ClassBlock.class? q)
  derived : ∀ q, t.packages[q]? = ks.findSome? (ClassBlock.package? packages q)
  methods : ∀ c m, t.method? c m = ks.findSome? (ClassBlock.method? c m)

lemma toldBy_new (packages : Bool) : ToldBy packages [] {} where
  classes _ := Std.ExtTreeMap.getElem?_empty
  derived _ := Std.ExtTreeMap.getElem?_empty
  methods _ _ := rfl

variable {packages : Bool} {p : Progress} {es : List Entry} {k : ClassBlock}
  {ks : List ClassBlock} {o : Text}

lemma Progress.run_cons (packages : Bool) (p : Progress) (e : Entry) (es : List Entry) :
    Progress.run packages p (e :: es) =
      ((Progress.run packages (p.step packages e).1 es).1,
        (p.step packages e).2 ++ (Progress.run packages (p.step packages e).1 es).2) := rfl

/-! ### Members -/

lemma reports_members (packages : Bool) (p : Progress) (h : es.all Entry.isMember = true) :
    reports (Progress.run packages p es).2 = [] := by
  induction es generalizing p with
  | nil => rfl
  | cons e es ih =>
    obtain ⟨he, hes⟩ : e.isMember = true ∧ es.all Entry.isMember = true := by simpa using h
    have hstep : reports (p.step packages e).2 = [] := by
      rw [Progress.reports_step]
      rcases e with ⟨n, c⟩ | ⟨n, c, o, b⟩ | ⟨m, b⟩
      · cases he
      · cases he
      · rfl
    rw [Progress.run_cons, reports_append, hstep, List.nil_append]
    exact ih _ hes

/-- Members leave the classes and packages alone. -/
lemma frame_members (packages : Bool) (p : Progress) (h : es.all Entry.isMember = true) :
    (Progress.run packages p es).1.table.classes = p.table.classes ∧
      (Progress.run packages p es).1.table.packages = p.table.packages := by
  induction es generalizing p with
  | nil => exact ⟨rfl, rfl⟩
  | cons e es ih =>
    obtain ⟨he, hes⟩ : e.isMember = true ∧ es.all Entry.isMember = true := by simpa using h
    obtain ⟨hc, hp⟩ := ih (p.step packages e).1 hes
    rcases e with ⟨n, c⟩ | ⟨n, c, o, b⟩ | ⟨m, b⟩
    · cases he
    · cases he
    · exact ⟨hc.trans (p.classes_member m b), hp.trans (p.packages_member m b)⟩

/-- The methods among the members go to the owner, and the first of a name is kept. -/
lemma method?_members (packages : Bool) (h : es.all Entry.isMember = true)
    (ho : p.owner = some o) (hf : internal o ∈ p.table.methods) (c m : Text) :
    (Progress.run packages p es).1.table.method? c m =
      (p.table.method? c m).or
        (if internal o = c then (es.filterMap Entry.method?).lookup m else none) := by
  induction es generalizing p with
  | nil => simp [Progress.run]
  | cons e es ih =>
    obtain ⟨he, hes⟩ : e.isMember = true ∧ es.all Entry.isMember = true := by simpa using h
    rcases e with ⟨n, c'⟩ | ⟨n, c', o', b⟩ | ⟨d | d, m'⟩
    · cases he
    · cases he
    · have hstep : (p.step packages (.member (.method d) m')).1 =
          ⟨p.table.addMethod o m' d, some o⟩ := Progress.step_method_of_some ho
      have hrest := ih (p := (p.step packages (.member (.method d) m')).1) hes
        (by rw [hstep]) (by rw [hstep]; exact Table.mem_methods_addMethod.2 hf)
      refine hrest.trans ?_
      rw [hstep, Table.method?_addMethod hf, Option.or_assoc]
      refine congrArg _ ?_
      by_cases hc : internal o = c
      · by_cases hm : m' = m
        · simp [hc, hm, Entry.method?]
        · have hne : (m == m') = false := by simpa using Ne.symm hm
          simp [hc, hm, Entry.method?, List.lookup_cons, hne]
      · simp [hc]
    · exact ih hes ho hf

/-! ### Whole blocks -/

lemma eq_of_ofEntries? (h : ClassBlock.ofEntries? es = some k) :
    ∃ n c ms, es = .classLine n c k.real k.obfuscated :: ms ∧ ms.all Entry.isMember = true ∧
      k.methods = ms.filterMap Entry.method? := by
  rcases es with _ | ⟨⟨n, c⟩ | ⟨n, c, o, b⟩ | ⟨m, b⟩, ms⟩
  · cases h
  · cases h
  · rw [ClassBlock.ofEntries?] at h
    split at h
    · next hms =>
      cases h
      exact ⟨n, c, ms, rfl, hms, rfl⟩
    · cases h
  · cases h

/-- The obfuscated name of a block is free as long as no block had it. -/
lemma ToldBy.not_mem (h : ToldBy packages ks p.table)
    (hnew : ∀ k' ∈ ks, internal k'.obfuscated ≠ internal k.obfuscated) :
    internal k.obfuscated ∉ p.table.classes := by
  have hnone : ks.findSome? (ClassBlock.class? (internal k.obfuscated)) = none :=
    List.findSome?_eq_none_iff.2 fun k' hk' => if_neg (hnew k' hk')
  rw [← h.classes] at hnone
  rw [← Std.ExtTreeMap.isSome_getElem?_iff_mem, hnone]
  exact Bool.false_ne_true

/-- **A further block** with an obfuscated name of its own is heard where no block before it says
anything, and nothing is reported. -/
theorem ToldBy.block (h : ToldBy packages ks p.table) (hk : ClassBlock.ofEntries? es = some k)
    (hnew : ∀ k' ∈ ks, internal k'.obfuscated ≠ internal k.obfuscated) :
    ToldBy packages (ks ++ [k]) (Progress.run packages p es).1.table ∧
      reports (Progress.run packages p es).2 = [] := by
  obtain ⟨n, c, ms, rfl, hms, hmethods⟩ := eq_of_ofEntries? hk
  have hfree := h.not_mem hnew
  -- the class line makes the class the owner of the members
  have howner : (p.step packages (.classLine n c k.real k.obfuscated)).1.owner = some k.real := by
    rw [Progress.owner_classLine, if_neg hfree]
  have hfiled : internal k.real ∈
      (p.step packages (.classLine n c k.real k.obfuscated)).1.table.methods :=
    Progress.mem_methods_classLine hfree
  obtain ⟨hclasses, hpackages⟩ :=
    frame_members packages (p.step packages (.classLine n c k.real k.obfuscated)).1 hms
  rw [Progress.run_cons, reports_append, Progress.reports_step, reports_members packages _ hms]
  refine ⟨⟨fun q => ?_, fun q => ?_, fun c' m => ?_⟩, by simp [hfree]⟩
  · rw [hclasses, Progress.classes_classLine, h.classes, List.findSome?_append,
      List.findSome?_singleton]
    rfl
  · rw [hpackages, Progress.packages_classLine, getElem?_packagesAfter, h.derived,
      List.findSome?_append, List.findSome?_singleton]
    rfl
  · rw [method?_members packages hms howner hfiled, Progress.method?_classLine, h.methods,
      List.findSome?_append, List.findSome?_singleton, ← hmethods]
    rfl

/-! ### Blocks in another order -/

/-- No two blocks have a name in common, and what they say about packages agrees. -/
structure Independent (packages : Bool) (ks : List ClassBlock) : Prop where
  real : (ks.map fun k => internal k.real).Nodup
  obfuscated : (ks.map fun k => internal k.obfuscated).Nodup
  derived : ∀ k ∈ ks, ∀ k' ∈ ks, ∀ q x y,
    k.package? packages q = some x → k'.package? packages q = some y → x = y

section Agreement

variable {α β : Type} {f : α → Option β} {xs ys : List α}

lemma findSome?_eq_some_iff_of_agree
    (h : ∀ x ∈ xs, ∀ y ∈ xs, ∀ a b, f x = some a → f y = some b → a = b) {a : β} :
    xs.findSome? f = some a ↔ ∃ x ∈ xs, f x = some a := by
  refine ⟨List.exists_of_findSome?_eq_some, fun ⟨x, hx, ha⟩ => ?_⟩
  have hsome : (xs.findSome? f).isSome := List.findSome?_isSome_iff.2 ⟨x, hx, by rw [ha]; rfl⟩
  obtain ⟨b, hb⟩ := Option.isSome_iff_exists.1 hsome
  obtain ⟨y, hy, hby⟩ := List.exists_of_findSome?_eq_some hb
  rw [hb, h x hx y hy a b ha hby]

/-- Where all that is said agrees, the order does not matter. -/
lemma findSome?_perm (h : ∀ x ∈ xs, ∀ y ∈ xs, ∀ a b, f x = some a → f y = some b → a = b)
    (hp : xs.Perm ys) : xs.findSome? f = ys.findSome? f := by
  have h' : ∀ x ∈ ys, ∀ y ∈ ys, ∀ a b, f x = some a → f y = some b → a = b :=
    fun x hx y hy => h x (hp.mem_iff.2 hx) y (hp.mem_iff.2 hy)
  refine Option.ext fun a => ?_
  rw [findSome?_eq_some_iff_of_agree h, findSome?_eq_some_iff_of_agree h']
  exact exists_congr fun x => and_congr_left fun _ => hp.mem_iff

end Agreement

/-- **The order of blocks does not matter** if they are independent. -/
theorem ToldBy.table_eq {ks' : List ClassBlock} {t t' : Table} (h : ToldBy packages ks t)
    (h' : ToldBy packages ks' t') (hw : t.WellFormed) (hw' : t'.WellFormed)
    (hi : Independent packages ks) (hp : ks.Perm ks') : t = t' := by
  refine hw.ext hw' (fun q => ?_) (fun q => ?_) fun c m => ?_
  · rw [h.classes, h'.classes]
    refine findSome?_perm (fun k hk k' hk' a a' ha ha' => ?_) hp
    obtain ⟨hq, ha⟩ := Option.ite_none_right_eq_some.1 ha
    obtain ⟨hq', ha'⟩ := Option.ite_none_right_eq_some.1 ha'
    obtain rfl := List.inj_on_of_nodup_map hi.obfuscated hk hk' (hq.trans hq'.symm)
    exact Option.some.inj (ha.symm.trans ha')
  · rw [h.derived, h'.derived]
    exact findSome?_perm (fun k hk k' hk' => hi.derived k hk k' hk' q) hp
  · rw [h.methods, h'.methods]
    refine findSome?_perm (fun k hk k' hk' a a' ha ha' => ?_) hp
    obtain ⟨hc, ha⟩ := Option.ite_none_right_eq_some.1 ha
    obtain ⟨hc', ha'⟩ := Option.ite_none_right_eq_some.1 ha'
    obtain rfl := List.inj_on_of_nodup_map hi.real hk hk' (hc.trans hc'.symm)
    exact Option.some.inj (ha.symm.trans ha')

end Unmask.Mapping
