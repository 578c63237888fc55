import Mathlib.Tactic.Lemma
import Unmask.Renaming

/-!
Renaming in any text, descriptor or not. A text that can be renamed is made of names, each from an
`L` to the next `;`, and of characters outside of them. So what comes out is put together like what
went in: texts are renamed one behind the other, and twice at once.
-/

namespace Unmask.Renaming

/-- What stands outside of names is copied, and names are replaced. -/
inductive Renames (f : Renaming) : Text → Text → Prop
  | nil : Renames f [] []
  | letter {c s r} (outside : c ≠ 'L') (rest : Renames f s r) : Renames f (c :: s) (c :: r)
  | name {x s r} (free : ';' ∉ x) (rest : Renames f s r) :
    Renames f ('L' :: x ++ ';' :: s) ('L' :: f.apply x ++ ';' :: r)

/-- An `L` has no `;` behind it. -/
def Unclosed (s : Text) : Prop := ∃ u v, s = u ++ 'L' :: v ∧ ';' ∉ v

variable {f g both : Renaming} {a a' b b' d r s : Text}

/-- A name that is kept is as good as it was. -/
lemma apply_of_forall {P : Text → Prop} {x : Text} (hx : P x) (hf : ∀ y ∈ f x, P y) :
    P (f.apply x) := by
  unfold apply
  rcases h : f x with _ | y
  · exact hx
  · exact hf y h

/-! ### What the scan gives -/

lemma scan_none_cons (f : Renaming) {c : Char} (hc : c ≠ 'L') (rest : Text) :
    f.scan none (c :: rest) = (f.scan none rest).map (c :: ·) := by
  simp [scan, hc]

/-- Inside a name the scan runs on to the next `;`. -/
lemma scan_some_append (f : Renaming) {name : Text} (h : ';' ∉ name) (seen rest : Text) :
    f.scan (some seen) (name ++ ';' :: rest) =
      (f.scan none rest).map (f.apply (seen.reverse ++ name) ++ ';' :: ·) := by
  induction name generalizing seen with
  | nil => simp [scan]
  | cons c r ih =>
    simp only [List.mem_cons, not_or] at h
    have hstep : f.scan (some seen) (c :: (r ++ ';' :: rest)) =
        f.scan (some (c :: seen)) (r ++ ';' :: rest) := by
      simp [scan, Ne.symm h.1]
    rw [List.cons_append, hstep, ih h.2]
    simp

lemma Renames.scan_eq (h : Renames f s r) : f.scan none s = some r := by
  induction h with
  | nil => rfl
  | letter outside _ ih => rw [scan_none_cons f outside, ih, Option.map_some]
  | @name x s r free _ ih =>
    have hname := scan_some_append f free [] s
    rw [List.cons_append, scan, if_pos rfl, hname, ih]
    rfl

/-- The two phases of the scan. Inside a name, the `L` and what was seen of it come first. -/
lemma of_scan (f : Renaming) (s : Text) :
    (∀ r, f.scan none s = some r → Renames f s r) ∧
    ∀ seen r, ';' ∉ seen → f.scan (some seen) s = some r →
      Renames f ('L' :: seen.reverse ++ s) ('L' :: r) := by
  induction s with
  | nil =>
    refine ⟨fun r h => ?_, fun seen r _ h => by cases h⟩
    cases h
    exact .nil
  | cons c s ih =>
    obtain ⟨houtside, hinside⟩ := ih
    constructor
    · intro r h
      obtain ⟨r', hr, rfl⟩ := Option.map_eq_some_iff.1 h
      split at hr
      · next hc =>
        subst hc
        exact hinside [] r' List.not_mem_nil hr
      · next hc => exact .letter hc (houtside r' hr)
    · intro seen r hseen h
      rw [scan] at h
      split at h
      · next hc =>
        subst hc
        obtain ⟨r', hr, rfl⟩ := Option.map_eq_some_iff.1 h
        exact .name (by simpa using hseen) (houtside r' hr)
      · next hc =>
        have hfree : ';' ∉ c :: seen := List.not_mem_cons_of_ne_of_not_mem (Ne.symm hc) hseen
        have hmore := hinside (c :: seen) r hfree h
        rwa [List.reverse_cons, ← List.cons_append, List.append_assoc,
          List.singleton_append] at hmore

theorem scan_eq_some_iff : f.scan none s = some r ↔ Renames f s r :=
  ⟨(of_scan f s).1 r, Renames.scan_eq⟩

/-! ### When there is nothing to give -/

lemma not_unclosed_nil : ¬Unclosed [] := by
  rintro ⟨u, v, h, -⟩
  simp at h

lemma unclosed_cons_iff {c : Char} : Unclosed (c :: s) ↔ (c = 'L' ∧ ';' ∉ s) ∨ Unclosed s := by
  constructor
  · rintro ⟨u, v, hu, hv⟩
    rcases u with _ | ⟨d, u⟩
    · obtain ⟨rfl, rfl⟩ := List.cons.inj hu
      exact .inl ⟨rfl, hv⟩
    · obtain ⟨rfl, rfl⟩ := List.cons.inj hu
      exact .inr ⟨u, v, rfl, hv⟩
  · rintro (⟨rfl, hs⟩ | ⟨u, v, rfl, hv⟩)
    · exact ⟨[], s, rfl, hs⟩
    · exact ⟨c :: u, v, rfl, hv⟩

/-- A scan that is inside a name can also fail for want of the end of that. -/
lemma scan_eq_none_iff_of (f : Renaming) (seen? : Option Text) (s : Text) :
    f.scan seen? s = none ↔ (seen?.isSome ∧ ';' ∉ s) ∨ Unclosed s := by
  fun_induction scan f seen? s with
  | case1 => simp [not_unclosed_nil]
  | case2 => simp
  | case3 c s ih =>
    rw [Option.map_eq_none_iff, ih, unclosed_cons_iff]
    by_cases hc : c = 'L' <;> simp [hc]
  | case4 seen s ih => simp [ih, unclosed_cons_iff]
  | case5 seen c s hc ih =>
    rw [ih, unclosed_cons_iff]
    by_cases hs : ';' ∈ s <;> simp [hs, Ne.symm hc]

theorem scan_eq_none_iff : f.scan none s = none ↔ Unclosed s := by
  simp [scan_eq_none_iff_of]

/-! ### Descriptors -/

lemma descriptor_eq_ok (f : Renaming) (h : f.scan none d = some r) : f.descriptor d = .ok r := by
  rw [descriptor, h]

theorem descriptor_eq_ok_iff : f.descriptor d = .ok r ↔ Renames f d r := by
  rw [← scan_eq_some_iff, descriptor]
  rcases f.scan none d with _ | r'
  · simp
  · simp

theorem descriptor_eq_error_iff {e : MissingSemicolon} :
    f.descriptor d = .error e ↔ Unclosed d ∧ e = ⟨d⟩ := by
  rw [← scan_eq_none_iff (f := f), descriptor]
  rcases f.scan none d with _ | r'
  · simp [eq_comm]
  · simp

lemma Unclosed.append_left (h : Unclosed b) (a : Text) : Unclosed (a ++ b) := by
  obtain ⟨u, v, rfl, hv⟩ := h
  exact ⟨a ++ u, v, by rw [List.append_assoc], hv⟩

namespace Renames

lemma append (ha : Renames f a a') (hb : Renames f b b') : Renames f (a ++ b) (a' ++ b') := by
  induction ha with
  | nil => exact hb
  | letter outside _ ih => exact .letter outside ih
  | @name x s r free _ ih =>
    rw [List.append_assoc, List.append_assoc]
    exact .name free ih

/-- Nothing is changed if all names are kept. -/
lemma eq_of_keeps (hf : ∀ x, f.apply x = x) (h : Renames f s r) : r = s := by
  induction h with
  | nil => rfl
  | letter _ _ ih => rw [ih]
  | name _ _ ih => rw [ih, hf]

/-- The names that come out are names again, and are renamed once more. -/
lemma trans (hf : ∀ x y, f x = some y → ';' ∉ y) (hboth : ∀ x, both.apply x = g.apply (f.apply x))
    (h : Renames f s r) : ∃ q, Renames g r q ∧ Renames both s q := by
  induction h with
  | nil => exact ⟨[], .nil, .nil⟩
  | @letter c s r outside _ ih =>
    obtain ⟨q, hg, hq⟩ := ih
    exact ⟨c :: q, .letter outside hg, .letter outside hq⟩
  | @name x s r free _ ih =>
    obtain ⟨q, hg, hq⟩ := ih
    have hfree : ';' ∉ f.apply x := apply_of_forall (P := fun y => ';' ∉ y) free (hf x)
    refine ⟨_, .name hfree hg, ?_⟩
    rw [← hboth]
    exact .name free hq

end Renames

lemma eq_of_descriptor (hf : ∀ x, f.apply x = x) (h : f.descriptor d = .ok r) : r = d :=
  (descriptor_eq_ok_iff.1 h).eq_of_keeps hf

/-- **Renaming any text**, a descriptor or not. It fails just if there is an `L` with no `;` behind
it. Behind a text that can be renamed, another is renamed as by itself, and is at fault if it is so
by itself. A text stays as it is if no name is mapped. And if no new name holds a `;`, then to
rename what was renamed is to rename once, by whatever takes each name where the two take it one
after the other. -/
theorem descriptor_append_and_trans (f : Renaming) :
    (∀ a, (∃ e, f.descriptor a = .error e) ↔ ∃ u v, a = u ++ 'L' :: v ∧ ';' ∉ v) ∧
    (∀ a a', f.descriptor a = .ok a' →
      (∀ b b', f.descriptor b = .ok b' → f.descriptor (a ++ b) = .ok (a' ++ b')) ∧
      ∀ b e, f.descriptor b = .error e → f.descriptor (a ++ b) = .error ⟨a ++ b⟩) ∧
    ((∀ x, f x = none) → ∀ a a', f.descriptor a = .ok a' → a' = a) ∧
    ((∀ x y, f x = some y → ';' ∉ y) →
      ∀ g both : Renaming, (∀ x, both.apply x = g.apply (f.apply x)) →
        ∀ a a', f.descriptor a = .ok a' →
          ∃ r, g.descriptor a' = .ok r ∧ both.descriptor a = .ok r) := by
  refine ⟨fun a => ?_, fun a a' ha => ?_, fun hf a a' ha => ?_, fun hf g both hboth a a' ha => ?_⟩
  · simp only [descriptor_eq_error_iff, exists_and_left, exists_eq, and_true]
    exact Iff.rfl
  · rw [descriptor_eq_ok_iff] at ha
    constructor
    · intro b b' hb
      rw [descriptor_eq_ok_iff] at hb ⊢
      exact ha.append hb
    · intro b e hb
      rw [descriptor_eq_error_iff] at hb ⊢
      exact ⟨hb.1.append_left a, rfl⟩
  · exact eq_of_descriptor (fun x => by rw [apply, hf, Option.getD_none]) ha
  · obtain ⟨r, hg, hr⟩ := (descriptor_eq_ok_iff.1 ha).trans hf hboth
    exact ⟨r, descriptor_eq_ok_iff.2 hg, descriptor_eq_ok_iff.2 hr⟩

/-- Gives a class a name that looks like the start of a class in a descriptor. -/
def toLetters : Renaming := fun x => if x = ['a'] then some ['L', 'L'] else none

def fromLetters : Renaming := fun x => if x = ['L', 'L'] then some ['c', '/', 'D'] else none

def throughLetters : Renaming := fun x => some (fromLetters.apply (toLetters.apply x))

theorem descriptor_throughLetters :
    toLetters.descriptor "?La;)LL;".toList = .ok "?LLL;)LL;".toList ∧
    toLetters.descriptor "?La;)LL;I[Lb".toList = .error ⟨"?La;)LL;I[Lb".toList⟩ ∧
    fromLetters.descriptor "?LLL;)LL;".toList = .ok "?Lc/D;)LL;".toList ∧
    throughLetters.descriptor "?La;)LL;".toList = .ok "?Lc/D;)LL;".toList := by
  obtain ⟨hfails, happend, -, htrans⟩ := descriptor_append_and_trans toLetters
  have hfirst : toLetters.descriptor "?La;)LL;".toList = .ok "?LLL;)LL;".toList :=
    descriptor_eq_ok _ (by decide)
  obtain ⟨e, he⟩ : ∃ e, toLetters.descriptor "I[Lb".toList = .error e :=
    (hfails _).2 ⟨['I', '['], ['b'], rfl, by decide⟩
  have hfree : ∀ x y, toLetters x = some y → ';' ∉ y := by
    intro x y h
    obtain ⟨-, rfl⟩ : x = ['a'] ∧ ['L', 'L'] = y := by simpa [toLetters] using h
    decide
  obtain ⟨r, hsecond, hboth⟩ := htrans hfree fromLetters throughLetters (fun _ => rfl) _ _ hfirst
  have hr : throughLetters.descriptor "?La;)LL;".toList = .ok "?Lc/D;)LL;".toList :=
    descriptor_eq_ok _ (by decide)
  obtain rfl : r = "?Lc/D;)LL;".toList := Except.ok.inj (hboth.symm.trans hr)
  exact ⟨hfirst, (happend _ _ hfirst).2 _ e he, hsecond, hr⟩

end Unmask.Renaming
