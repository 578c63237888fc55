import Unmask.Proofs.Mapping.Meaning
import Unmask.Proofs.Table.Spelling

/-!
Names that are empty. No class line and no obfuscated name of a member can bring one in. But what
is left of a declaration without its line numbers is not looked at again, and where nothing but
white space is left in front of its parameters, the method is shown with no name at all.
-/

namespace Unmask

/-! ### The name in a declaration -/

namespace Text

/-- The last word is empty just if there is none. -/
lemma afterLast_trimEnd_eq_nil_iff {s : Text} :
    afterLast isBlank (trimEnd s) = [] ↔ ∀ c ∈ s, isBlank c := by
  rw [afterLast, trimEnd, List.reverse_reverse, List.reverse_eq_nil_iff]
  rcases h : s.reverse.dropWhile isBlank with _ | ⟨c, r⟩
  · have hall := List.dropWhile_eq_nil_iff.1 h
    simpa using hall
  · have hc : isBlank c = false := by
      have := List.head?_dropWhile_not isBlank s.reverse
      rw [h] at this
      exact this
    have hmem : c ∈ s := by
      have hsuffix := List.dropWhile_suffix (l := s.reverse) isBlank
      rw [h] at hsuffix
      exact List.mem_reverse.1 (hsuffix.mem List.mem_cons_self)
    refine ⟨fun hnil => ?_, fun hall => ?_⟩
    · simp [hc] at hnil
    · rw [hall c hmem] at hc
      cases hc

end Text

namespace Table

/-- Nothing but white space stands in front of the parameters. -/
def Nameless (declaration : Text) : Prop :=
  ∀ c ∈ declaration.takeWhile (· ≠ '('), Text.isBlank c

instance (declaration : Text) : Decidable (Nameless declaration) :=
  inferInstanceAs (Decidable (∀ c ∈ _, _))

lemma nameless_cons_of_ne {c : Char} {r : Text} (h : c ≠ '(') :
    Nameless (c :: r) ↔ Text.isBlank c ∧ Nameless r := by
  simp [Nameless, h]

lemma nameless_open (r : Text) : Nameless ('(' :: r) := by
  simp [Nameless]

/-- Behind a character that is not blank nothing matters. -/
lemma nameless_append_cons_iff {a r : Text} {c : Char} (hc : Text.isBlank c = false)
    (ho : c ≠ '(') : Nameless (a ++ c :: r) ↔ '(' ∈ a ∧ Nameless a := by
  induction a with
  | nil => simp [nameless_cons_of_ne ho, hc]
  | cons d a ih =>
    by_cases hd : d = '('
    · subst hd
      simp [nameless_open]
    · rw [List.cons_append, nameless_cons_of_ne hd, nameless_cons_of_ne hd, ih, List.mem_cons,
        or_iff_right (Ne.symm hd)]
      exact and_left_comm

lemma methodName_eq (d : Text) :
    methodName d = Text.afterLast Text.isBlank (Text.trimEnd (d.takeWhile (· ≠ '('))) := by
  unfold methodName
  rcases h : Text.cutFirst '(' d with _ | ⟨a, b⟩
  · have hn : d.takeWhile (· ≠ '(') = d := by
      rw [List.takeWhile_eq_self_iff]
      intro c hc
      have hne : c ≠ '(' := ne_of_mem_of_not_mem hc (Text.cutFirst_eq_none.1 h)
      simpa using hne
    simp only [hn]
  · obtain ⟨rfl, ha⟩ := Text.eq_of_cutFirst h
    have hall : ∀ c ∈ a, decide (c ≠ '(') = true := by
      intro c hc
      have hne : c ≠ '(' := ne_of_mem_of_not_mem hc ha
      simpa using hne
    have hn : (a ++ '(' :: b).takeWhile (· ≠ '(') = a := by
      rw [List.takeWhile_append_of_pos hall]
      simp
    simp only [hn]

lemma methodName_eq_nil_iff {d : Text} : methodName d = [] ↔ Nameless d := by
  rw [methodName_eq]
  exact Text.afterLast_trimEnd_eq_nil_iff

lemma showMethod_of_some {t : Table} {c m d : Text} (h : t.declaration? c m = some d) :
    t.showMethod c m = methodName d := by
  rw [showMethod, h]

end Table

namespace Mapping

open Name Table

/-- Line numbers behind the parameters are none of the name. -/
lemma Member.nameless_iff {text d : Text} (h : ofText text = .method d) :
    Nameless d ↔ Nameless (dropNumbers (Text.trim text)) := by
  unfold ofText at h
  generalize dropNumbers (Text.trim text) = s at h
  rcases hs : Text.cutLast ')' s with _ | ⟨front, back⟩
  · simp only [hs] at h
    split at h
    · cases h
    · cases h
      rfl
  · simp only [hs] at h
    split at h
    · cases h
      have hclose : Text.isBlank ')' = false := by decide
      rw [(Text.eq_of_cutLast hs).1, nameless_append_cons_iff hclose (by decide),
        nameless_append_cons_iff hclose (by decide)]
    · cases h
      rfl

/-- Line `j` is a member, and behind its line numbers there is no name. -/
def NamelessAt (ls : Lines) (j : Nat) : Prop :=
  ∃ text m, MemberAt ls j text m ∧ Nameless (Member.dropNumbers text)

/-- Line `j` is the first to say anything of the method `m` of `c`. -/
def FirstSays (c m : Text) (ls : Lines) (j : Nat) : Prop :=
  (∃ d, SaysMethod c m ls j d) ∧ ∀ k < j, ∀ d, ¬SaysMethod c m ls k d

variable {ls : Lines} {i j : Nat} {o b d m c : Text}

lemma ClassAt.ne_nil (h : ClassAt ls i o b) : o ≠ [] ∧ b ≠ [] := by
  obtain ⟨l, hl, -, left, right, hc, rfl, -, hb⟩ := h
  obtain ⟨text, rfl⟩ := eq_ofText_of_lineAt? hl
  exact ⟨Line.trim_left_ne_nil hc, hb⟩

lemma MemberAt.ne_nil (h : MemberAt ls i d m) : m ≠ [] := by
  obtain ⟨l, hl, -, left, right, hc, -, rfl⟩ := h
  obtain ⟨text, rfl⟩ := eq_ofText_of_lineAt? hl
  exact Line.trim_right_ne_nil hc

lemma MemberAt.trim_eq (h : MemberAt ls i d m) : Text.trim d = d := by
  obtain ⟨l, -, -, left, right, -, rfl, -⟩ := h
  exact Text.trim_trim left

lemma SaysMethod.nameless_iff (h : SaysMethod c m ls j d) : Nameless d ↔ NamelessAt ls j := by
  obtain ⟨-, -, -, -, -, -, -, text, hm, ht⟩ := h
  have hd := Member.nameless_iff ht
  rw [hm.trim_eq] at hd
  rw [hd]
  refine ⟨fun hn => ⟨text, m, hm, hn⟩, fun ⟨text', m', hm', hn⟩ => ?_⟩
  obtain ⟨rfl, -⟩ := hm.unique hm'
  exact hn

/-! ### The names in a table -/

variable {p : Progress} {t : Table}

lemma Means.classes_ne_nil (h : Means ls p) {q x : Text} (hx : p.table.classes[q]? = some x) :
    q ≠ [] ∧ x ≠ [] := by
  obtain ⟨i, ⟨o, b, hc, rfl, rfl⟩, -⟩ := ((h.classes q).some_iff x).1 hx
  exact ⟨mt internal_eq_nil_iff.1 hc.ne_nil.2, mt internal_eq_nil_iff.1 hc.ne_nil.1⟩

lemma Means.methods_ne_nil (h : Means ls p) (hd : p.table.method? c m = some d) : m ≠ [] := by
  obtain ⟨j, ⟨-, -, -, -, -, -, -, text, hm, -⟩, -⟩ := ((h.methods c m).some_iff d).1 hd
  exact hm.ne_nil

/-- A method is shown with no name just if the line that tells of it has none. -/
lemma Means.showMethod_eq_nil_iff (h : Means ls p) (hd : p.table.declaration? c m = some d) :
    p.table.showMethod c m = [] ↔ ∃ j, FirstSays (internal c) m ls j ∧ NamelessAt ls j := by
  rw [showMethod_of_some hd, methodName_eq_nil_iff]
  rw [declaration?_eq] at hd
  obtain ⟨j, hj, hfirst⟩ := ((h.methods (internal c) m).some_iff d).1 hd
  rw [hj.nameless_iff]
  refine ⟨fun hn => ⟨j, ⟨⟨d, hj⟩, hfirst⟩, hn⟩, ?_⟩
  rintro ⟨k, ⟨⟨e, hk⟩, hmin⟩, hn⟩
  have hle : j ≤ k := not_lt.1 fun hlt => hfirst k hlt e hk
  have hge : k ≤ j := not_lt.1 fun hlt => hmin j hlt d hj
  obtain rfl : j = k := le_antisymm hle hge
  exact hn

/-- **Names that are not empty.** A file brings in no empty name of a class, real or obfuscated,
and no empty obfuscated name of a method. A method that is mapped is shown with no name just if the
first line that maps it has none behind its line numbers. -/
theorem read_names (packages : Bool) (bytes : List UInt8) (t : Table)
    (h : (read packages (.bytes bytes)).2 = .ok t) :
    (∀ b x : Text, t.classes[b]? = some x → b ≠ [] ∧ x ≠ []) ∧
    (∀ (c : Text) (ms : NameMap) (m d : Text),
      t.methods[c]? = some ms → ms[m]? = some d → m ≠ []) ∧
    ∀ c m d, t.declaration? c m = some d →
      (t.showMethod c m = [] ↔
        ∃ j, FirstSays (internal c) m (fileLines bytes) j ∧ NamelessAt (fileLines bytes) j) := by
  obtain ⟨es, above, hr, rfl⟩ := read_eq_ok_iff.1 h
  have hm := hr.means packages
  refine ⟨fun b x hx => hm.classes_ne_nil hx, fun c ms m d hms hd => ?_,
    fun c m d hd => hm.showMethod_eq_nil_iff hd⟩
  refine hm.methods_ne_nil (c := c) (d := d) ?_
  rw [method?, hms]
  exact hd

/-- The first member is nothing but line numbers. -/
def namelessFile : List UInt8 :=
  Text.Utf8.encode "S -> a:\n    13:14: -> x\n    void f() -> y\n".toList

theorem read_namelessFile_names : ∃ t, (read false (.bytes namelessFile)).2 = .ok t ∧
    t.declaration? ['S'] ['x'] = some [] ∧ t.showMethod ['S'] ['x'] = [] ∧
    (∃ j, FirstSays ['S'] ['x'] (fileLines namelessFile) j ∧
      NamelessAt (fileLines namelessFile) j) ∧
    t.showMethod ['S'] ['y'] = ['f'] ∧
    ¬∃ j, FirstSays ['S'] ['y'] (fileLines namelessFile) j ∧
      NamelessAt (fileLines namelessFile) j := by
  have h : (read false (.bytes namelessFile)).2 =
      .ok ((read false (.bytes namelessFile)).2.toOption.getD {}) := by decide
  obtain ⟨-, -, hshow⟩ := read_names false namelessFile _ h
  have hx := hshow ['S'] ['x'] [] (by decide)
  have hy := hshow ['S'] ['y'] "void f()".toList (by decide)
  refine ⟨_, h, by decide, by decide, hx.1 (by decide), by decide, fun hn => ?_⟩
  exact absurd (hy.2 hn) (by decide)

/-- A method that is mapped can be shown with no name. -/
theorem not_showMethod_ne_nil : ¬∀ packages bytes t,
    (read packages (.bytes bytes)).2 = .ok t →
      ∀ c m d, t.declaration? c m = some d → t.showMethod c m ≠ [] := by
  intro hall
  have h := hall false namelessFile
    ((read false (.bytes namelessFile)).2.toOption.getD {}) (by decide) ['S'] ['x'] [] (by decide)
  exact h (by decide)

end Mapping

end Unmask
