import Unmask.Proofs.Mapping.Answers
import Unmask.Proofs.Mapping.Outcome

/-!
What a mapping file means, said line by line: a class has the real name that the first class line
for it gives, and a method the declaration that the first method line for it gives, among the
blocks of the class lines that are no duplicates. The table of a file answers just that.
-/

namespace Unmask.Mapping

open Name

/-! ### What the lines say -/

/-- Line `i` gives the class `q` the real name `x`, both in internal form. -/
def SaysReal (q : Text) (ls : Lines) (i : Nat) (x : Text) : Prop :=
  ∃ o b, ClassAt ls i o b ∧ internal b = q ∧ internal o = x

/-- Line `j` gives the method `m` of the class with the real name `c` the declaration `d`. It
stands in the block of a class line for `c` that is no duplicate. -/
def SaysMethod (c m : Text) (ls : Lines) (j : Nat) (d : Text) : Prop :=
  ∃ i o b, ClassAt ls i o b ∧ ¬Duplicate ls i ∧ internal o = c ∧ InBlock ls i j ∧
    ∃ text, MemberAt ls j text m ∧ Member.ofText text = .method d

lemma settled_saysReal (q : Text) : Settled (SaysReal q) where
  append h := by
    unfold SaysReal
    simp only [classAt_append h]
  lt := fun ⟨_, _, h, _⟩ => h.lt

lemma settled_saysMethod (c m : Text) : Settled (SaysMethod c m) where
  append {ls more j d} h := by
    unfold SaysMethod
    refine exists_congr fun i => exists_congr fun o => exists_congr fun b => ?_
    simp only [memberAt_append h, inBlock_append h]
    rcases Nat.lt_or_ge i ls.length with hi | hi
    · rw [classAt_append hi, duplicate_append hi]
    · have hb : ¬InBlock ls i j := fun ⟨_, hlt, _⟩ => by omega
      simp [hb]
  lt := fun ⟨_, _, _, _, _, _, _, _, h, _⟩ => h.lt

/-! ### The table under construction -/

/-- The table answers what the lines say, and the class whose members come next is the last class
line, unless that is a duplicate. -/
structure Means (ls : Lines) (p : Progress) : Prop where
  classes : ∀ q, Answers p.table.classes[q]? (SaysReal q ls)
  methods : ∀ c m, Answers (p.table.method? c m) (SaysMethod c m ls)
  owner : ∀ o, p.owner = some o ↔ ∃ i b, ClassAt ls i o b ∧ ¬Duplicate ls i ∧ LastClass ls i
  filed : ∀ o, p.owner = some o → internal o ∈ p.table.methods

variable {ls : Lines} {p : Progress} {text : Text} {x : Except ReadFault Text}

lemma means_nil : Means [] {} where
  classes q := by
    rw [Std.ExtTreeMap.getElem?_empty]
    exact answers_none fun i a ⟨_, _, h, _⟩ => absurd h.lt (by simp)
  methods c m := by
    unfold Table.method?
    rw [Std.ExtTreeMap.getElem?_empty]
    exact answers_none fun i a ⟨_, _, _, h, _⟩ => absurd h.lt (by simp)
  owner o := by
    refine ⟨fun h => (by cases h), fun ⟨_, _, h, _⟩ => absurd h.lt (by simp)⟩
  filed o h := by cases h

/-- Only class lines move the owner. -/
lemma Means.owner_concat (h : Means ls p) (hc : ∀ o b, ¬ClassAt (ls ++ [x]) ls.length o b)
    (o : Text) : p.owner = some o ↔
      ∃ i b, ClassAt (ls ++ [x]) i o b ∧ ¬Duplicate (ls ++ [x]) i ∧ LastClass (ls ++ [x]) i := by
  rw [h.owner o]
  refine exists_congr fun i => exists_congr fun b => ?_
  rw [lastClass_concat_of_not hc]
  rcases Nat.lt_or_ge i ls.length with hi | hi
  · rw [classAt_append hi, duplicate_append hi]
  · have hl : ¬LastClass ls i := fun ⟨⟨_, _, h'⟩, _⟩ => absurd h'.lt (by omega)
    simp [hl]

lemma Means.owner_eq_none (h : Means ls p) {k : Nat} (hk : LastClass ls k)
    (hd : Duplicate ls k) : p.owner = none := by
  by_contra hne
  obtain ⟨o, ho⟩ := Option.ne_none_iff_exists'.1 hne
  obtain ⟨i, b, -, hn, hi⟩ := (h.owner o).1 ho
  exact hn (hi.unique hk ▸ hd)

/-- A line that maps nothing is passed over. -/
lemma Means.pass (h : Means ls p) (hc : ∀ o b, ¬ClassAt (ls ++ [x]) ls.length o b)
    (hm : ∀ c m d, ¬SaysMethod c m (ls ++ [x]) ls.length d) : Means (ls ++ [x]) p where
  classes q := (h.classes q).pass (settled_saysReal q) fun _ ⟨o, b, h', _⟩ => hc o b h'
  methods c m := (h.methods c m).pass (settled_saysMethod c m) (hm c m)
  owner := h.owner_concat hc
  filed := h.filed

/-- What a member line says is said about the owner. -/
lemma Means.saysMethod_concat_iff (h : Means ls p)
    (hc : ∀ o b, ¬ClassAt (ls ++ [x]) ls.length o b) {text m d : Text}
    (hm : MemberAt (ls ++ [x]) ls.length text m) (c m' : Text) :
    SaysMethod c m' (ls ++ [x]) ls.length d ↔
      (∃ o, p.owner = some o ∧ internal o = c) ∧ m = m' ∧ Member.ofText text = .method d := by
  constructor
  · rintro ⟨i, o, b, hi, hd, ho, hb, text', hm', ht⟩
    obtain ⟨rfl, rfl⟩ := hm.unique hm'
    refine ⟨⟨o, (h.owner_concat hc o).2 ⟨i, b, hi, hd, ?_⟩, ho⟩, rfl, ht⟩
    exact (lastClass_concat_of_not hc).2 ((inBlock_concat hc).1 hb)
  · rintro ⟨⟨o, ho, rfl⟩, rfl, ht⟩
    obtain ⟨i, b, hi, hd, hl⟩ := (h.owner_concat hc o).1 ho
    refine ⟨i, o, b, hi, hd, rfl, (inBlock_concat hc).2 ?_, text, hm, ht⟩
    exact (lastClass_concat_of_not hc).1 hl

lemma Means.method {o m d : Text} (h : Means ls p) (ho : p.owner = some o)
    (hc : ∀ o b, ¬ClassAt (ls ++ [x]) ls.length o b)
    (hm : MemberAt (ls ++ [x]) ls.length text m) (ht : Member.ofText text = .method d) :
    Means (ls ++ [x]) ⟨p.table.addMethod o m d, some o⟩ where
  classes q := (h.classes q).pass (settled_saysReal q) fun _ ⟨o, b, h', _⟩ => hc o b h'
  methods c m' := by
    rw [Table.method?_addMethod (h.filed o ho)]
    refine (h.methods c m').snoc (settled_saysMethod c m') fun a => ?_
    rw [h.saysMethod_concat_iff hc hm, ht, ho]
    by_cases hcm : internal o = c ∧ m = m'
    · simp [hcm]
    · rw [if_neg hcm]
      refine ⟨fun he => (by cases he), fun ⟨⟨o', ho', hi⟩, hm', _⟩ => ?_⟩
      cases ho'
      exact absurd ⟨hi, hm'⟩ hcm
  owner o' := by
    rw [← h.owner_concat hc o', ho]
  filed o' ho' := by
    cases ho'
    exact Table.mem_methods_addMethod.2 (h.filed o ho)

/-- A member line, of a field or of a method, with an owner or without. -/
lemma Means.member {m d : Text} (h : Means ls p)
    (hc : ∀ o b, ¬ClassAt (ls ++ [x]) ls.length o b) (hm : MemberAt (ls ++ [x]) ls.length d m)
    (packages : Bool) : Means (ls ++ [x]) (p.step packages (.member (Member.ofText d) m)).1 := by
  rcases ht : Member.ofText d with d' | d'
  · rcases ho : p.owner with _ | o
    · rw [Progress.step_member_of_none ho]
      refine h.pass hc fun c m' a h' => ?_
      obtain ⟨⟨o, ho', -⟩, -⟩ := (h.saysMethod_concat_iff hc hm c m').1 h'
      rw [ho] at ho'
      cases ho'
    · rw [Progress.step_method_of_some ho]
      exact h.method ho hc hm ht
  · rw [Progress.step_field]
    refine h.pass hc fun c m' a h' => ?_
    obtain ⟨-, -, ha⟩ := (h.saysMethod_concat_iff hc hm c m').1 h'
    rw [ht] at ha
    cases ha

/-- The last class line is a duplicate just if its obfuscated name is mapped. -/
lemma Means.duplicate_concat_iff {o b : Text} (h : Means ls p)
    (hc : ClassAt (ls ++ [x]) ls.length o b) :
    Duplicate (ls ++ [x]) ls.length ↔ internal b ∈ p.table.classes := by
  have hnone := (h.classes (internal b)).none_iff
  rw [← not_iff_not, ← Std.ExtTreeMap.isSome_getElem?_iff_mem, Option.not_isSome_iff_eq_none,
    hnone]
  refine ⟨fun hd i a ⟨o', b', h', hb, _⟩ => hd ⟨o, b, hc, i, h'.lt, o', b', h'.append, hb⟩, ?_⟩
  rintro hall ⟨o₁, b₁, hc₁, k, hk, o', b', h', hb⟩
  obtain ⟨-, rfl⟩ := hc.unique hc₁
  exact hall k _ ⟨o', b', (classAt_append hk).1 h', hb, rfl⟩

lemma Means.classLine {o b : Text} (h : Means ls p) (hc : ClassAt (ls ++ [x]) ls.length o b)
    (packages : Bool) (n : Nat) (c : Text) :
    Means (ls ++ [x]) (p.step packages (.classLine n c o b)).1 where
  classes q := by
    rw [Progress.classes_classLine]
    refine (h.classes q).snoc (settled_saysReal q) fun a => ⟨fun ha => ?_, ?_⟩
    · by_cases hq : internal b = q
      · rw [if_pos hq] at ha
        exact ⟨o, b, hc, hq, Option.some.inj ha⟩
      · rw [if_neg hq] at ha
        cases ha
    · rintro ⟨o', b', hc', hq, rfl⟩
      obtain ⟨rfl, rfl⟩ := hc.unique hc'
      rw [if_pos hq]
  methods c' m := by
    rw [Progress.method?_classLine]
    refine (h.methods c' m).pass (settled_saysMethod c' m) ?_
    rintro a ⟨_, _, _, _, _, _, _, _, hm, _⟩
    exact hm.not_classAt hc
  owner o' := by
    rw [Progress.owner_classLine]
    have hd := h.duplicate_concat_iff hc
    by_cases hb : internal b ∈ p.table.classes
    · rw [if_pos hb]
      refine ⟨fun he => (by cases he), fun ⟨i, _, _, hn, hl⟩ => ?_⟩
      obtain rfl := (lastClass_concat hc).1 hl
      exact absurd (hd.2 hb) hn
    · rw [if_neg hb]
      refine ⟨fun he => ?_, fun ⟨i, b', hc', _, hl⟩ => ?_⟩
      · cases he
        exact ⟨ls.length, b, hc, fun h' => hb (hd.1 h'), (lastClass_concat hc).2 rfl⟩
      · obtain rfl := (lastClass_concat hc).1 hl
        rw [(hc.unique hc').1]
  filed o' ho' := by
    rw [Progress.owner_classLine] at ho'
    by_cases hb : internal b ∈ p.table.classes
    · rw [if_pos hb] at ho'
      cases ho'
    · rw [if_neg hb] at ho'
      cases ho'
      exact Progress.mem_methods_classLine hb

/-- Reading keeps the table to what the lines say. -/
theorem Reads.means {es : List Entry} {above : Option Nat} (h : Reads ls es above)
    (packages : Bool) : Means ls (Progress.after packages es) := by
  induction h with
  | nil => exact means_nil
  | @snoc ls es above x entry before here ih =>
    cases here with
    | ignored hi =>
      rw [Option.toList_none, List.append_nil]
      refine ih.pass (fun o b => not_classAt_concat_of_ignored hi) ?_
      rintro c m d ⟨_, _, _, _, _, _, _, _, ⟨l, hl, _⟩, _⟩
      rw [lineAt?_concat_ignored hi] at hl
      cases hl
    | orphan hi hd ht =>
      have hc (o b) := not_classAt_concat_of_indented (o := o) (b := b) hi hd
      rw [Option.toList_some, Progress.after_snoc, Progress.step_orphan]
      refine ih.pass hc ?_
      rintro c m d ⟨i, _, _, _, _, _, hb, _⟩
      obtain ⟨⟨o, b, h'⟩, -⟩ := (inBlock_concat hc).1 hb
      exact before.lastClass.1 ht i o b h'
    | member hi hd hb hs =>
      rw [Option.toList_some, Progress.after_snoc]
      exact ih.member (fun o b => not_classAt_concat_of_indented hi hd)
        ⟨_, lineAt?_concat hi, hd, hs⟩ packages
    | classLine hi hd hs =>
      rw [Option.toList_some, Progress.after_snoc]
      exact ih.classLine ⟨_, lineAt?_concat hi, hd, hs⟩ packages _ _

/-! ### The table of a file -/

variable {bytes : List UInt8} {packages : Bool}

/-- **The table of a file.** It answers every name of a class with what the first class line for
it says, and every method with what the first method line for it says in the block of a class
line that is no duplicate. -/
theorem read_table_answers {t : Table} (h : (read packages (.bytes bytes)).2 = .ok t) :
    (∀ name, Answers (t.realClass? name) (SaysReal (internal name) (fileLines bytes))) ∧
      ∀ c m, Answers (t.declaration? c m) (SaysMethod (internal c) m (fileLines bytes)) := by
  obtain ⟨es, above, hr, rfl⟩ := read_eq_ok_iff.1 h
  have hm := hr.means packages
  refine ⟨fun name => hm.classes (internal name), fun c m => ?_⟩
  rw [Table.declaration?_eq]
  exact hm.methods (internal c) m

/-- Two class lines share the real name `A`, and the third is a duplicate. -/
def sharedFile : List UInt8 := Text.Utf8.encode
  "A -> a:\n  void f() -> x\nA -> b:\n  int g() -> y\nA -> a:\n  int h() -> z\n".toList

theorem read_sharedFile_answers : ∃ t, (read true (.bytes sharedFile)).2 = .ok t ∧
    t.declaration? ['A'] ['y'] = some "int g()".toList ∧ t.declaration? ['A'] ['z'] = none ∧
    Answers (t.realClass? ['a']) (SaysReal ['a'] (fileLines sharedFile)) ∧
    Answers (t.declaration? ['A'] ['z']) (SaysMethod ['A'] ['z'] (fileLines sharedFile)) := by
  have h : (read true (.bytes sharedFile)).2 =
      .ok ((read true (.bytes sharedFile)).2.toOption.getD {}) := by decide
  refine ⟨_, h, by decide, by decide, ?_, ?_⟩
  · exact (read_table_answers h).1 ['a']
  · exact (read_table_answers h).2 ['A'] ['z']

end Unmask.Mapping
