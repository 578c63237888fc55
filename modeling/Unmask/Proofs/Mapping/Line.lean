import Unmask.Mapping.Entry
import Unmask.Proofs.Text.Cut

/-!
What a line of a mapping file says, told by its text alone, and that this is what is read from it.
-/

namespace Unmask.Mapping.Line

/-- The line reads `real -> obfuscated:`. -/
def SaysClass (l : Line) (real obfuscated : Text) : Prop :=
  ∃ left right, Text.CutAt arrow l.content left right ∧ Text.trim left = real ∧
    Text.trim right = obfuscated ++ [':'] ∧ obfuscated ≠ []

/-- The line reads `declaration -> obfuscated`. -/
def SaysMember (l : Line) (declaration obfuscated : Text) : Prop :=
  ∃ left right, Text.CutAt arrow l.content left right ∧ Text.trim left = declaration ∧
    Text.trim right = obfuscated

/-- There is no arrow, or what stands behind the first is not a name and a colon. -/
def BadClass (l : Line) : Prop :=
  ¬arrow <:+: l.content ∨ ∃ left right, Text.CutAt arrow l.content left right ∧
    ¬∃ name, name ≠ [] ∧ Text.trim right = name ++ [':']

/-- There is no arrow. -/
def BadMember (l : Line) : Prop := ¬arrow <:+: l.content

variable {n : Nat} {text : Text}

@[simp] lemma number_ofText : (ofText n text).number = n := rfl
@[simp] lemma content_ofText : (ofText n text).content = Text.trim text := rfl

lemma trim_left_ne_nil {left right : Text} (h : Text.CutAt arrow (Text.trim text) left right) :
    Text.trim left ≠ [] := by
  have he := h.eq
  rcases left with _ | ⟨c, left⟩
  · have hb := Text.head?_trim (s := text) (c := ' ') (by rw [he]; rfl)
    exact absurd hb (by decide)
  · exact Text.trim_ne_nil List.mem_cons_self (Text.head?_trim (s := text) (by rw [he]; rfl))

lemma trim_right_ne_nil {left right : Text} (h : Text.CutAt arrow (Text.trim text) left right) :
    Text.trim right ≠ [] := by
  have he := h.eq
  rcases List.eq_nil_or_concat right with rfl | ⟨r, c, rfl⟩
  · have hb := Text.getLast?_trim (s := text) (c := ' ') (by rw [he]; simp [arrow])
    exact absurd hb (by decide)
  · have hb := Text.getLast?_trim (s := text) (c := c) (by rw [he]; simp)
    exact Text.trim_ne_nil (by simp) hb

lemma sides_eq_ok {l : Line} {left right : Text} (h : Text.CutAt arrow l.content left right) :
    l.sides = .ok (Text.trim left, Text.trim right) := by
  rw [sides, Text.cutAt_eq_some_iff.2 h]

lemma sides_eq_error {l : Line} (h : ¬arrow <:+: l.content) :
    l.sides = .error (.noArrow l.number l.content) := by
  rw [sides, Text.cutAt_eq_none_iff.2 h]

/-- Either there is no arrow, or the text is cut at the first one. -/
lemma cut_cases (l : Line) :
    ¬arrow <:+: l.content ∨ ∃ left right, Text.CutAt arrow l.content left right := by
  rcases h : Text.cutAt arrow l.content with _ | ⟨left, right⟩
  · exact Or.inl (Text.cutAt_eq_none_iff.1 h)
  · exact Or.inr ⟨left, right, Text.cutAt_eq_some_iff.1 h⟩

lemma not_cut {l : Line} (h : ¬arrow <:+: l.content) {left right : Text} :
    ¬Text.CutAt arrow l.content left right :=
  fun hc => h ⟨left, right, hc.eq.symm⟩

/-! ### Members -/

theorem memberNames_eq_ok_iff {d m : Text} :
    (ofText n text).memberNames = .ok (d, m) ↔ (ofText n text).SaysMember d m := by
  rcases cut_cases (ofText n text) with h | ⟨left, right, h⟩
  · rw [memberNames, sides_eq_error h]
    exact ⟨fun he => (by cases he), fun ⟨_, _, hc, _⟩ => absurd hc (not_cut h)⟩
  · have hne := trim_right_ne_nil h
    rw [memberNames, sides_eq_ok h]
    simp only [hne, if_false, Except.ok.injEq, Prod.mk.injEq]
    constructor
    · exact fun he => ⟨left, right, h, he⟩
    · rintro ⟨left', right', h', he⟩
      obtain ⟨rfl, rfl⟩ := h.unique h'
      exact he

theorem memberNames_eq_error_iff {f : LineFault} :
    (ofText n text).memberNames = .error f ↔
      (ofText n text).BadMember ∧ f = .noArrow n (Text.trim text) := by
  rcases cut_cases (ofText n text) with h | ⟨left, right, h⟩
  · rw [memberNames, sides_eq_error h]
    simp only [Except.error.injEq, BadMember, h, not_false_iff, true_and]
    exact eq_comm
  · have hne := trim_right_ne_nil h
    rw [memberNames, sides_eq_ok h]
    simp only [hne, if_false, reduceCtorEq, false_iff, not_and]
    exact fun hb => absurd ⟨left, right, h.eq.symm⟩ hb

/-! ### Class lines -/

theorem classNames_eq_ok_iff {o b : Text} :
    (ofText n text).classNames = .ok (o, b) ↔ (ofText n text).SaysClass o b := by
  rcases cut_cases (ofText n text) with h | ⟨left, right, h⟩
  · rw [classNames, sides_eq_error h]
    exact ⟨fun he => (by cases he), fun ⟨_, _, hc, _⟩ => absurd hc (not_cut h)⟩
  · have hne := trim_left_ne_nil h
    rw [classNames, sides_eq_ok h]
    constructor
    · intro he
      refine ⟨left, right, h, ?_⟩
      rcases hd : Text.dropLast? ':' (Text.trim right) with _ | name
      · simp [hd] at he
      · by_cases hn : name = []
        · simp [hd, hn] at he
        · obtain ⟨rfl, rfl⟩ : Text.trim left = o ∧ name = b := by simpa [hd, hn, hne] using he
          exact ⟨rfl, Text.dropLast?_eq_some_iff.1 hd, hn⟩
    · rintro ⟨left', right', h', rfl, hb, hn⟩
      obtain ⟨rfl, rfl⟩ := h.unique h'
      simp [Text.dropLast?_eq_some_iff.2 hb, hne, hn]

theorem exists_saysClass_iff (l : Line) : (∃ o b, l.SaysClass o b) ↔ ¬l.BadClass := by
  constructor
  · rintro ⟨o, b, left, right, h, -, hb, hn⟩ (ha | ⟨left', right', h', hbad⟩)
    · exact not_cut ha h
    · obtain ⟨rfl, rfl⟩ := h.unique h'
      exact hbad ⟨b, hn, hb⟩
  · intro hbad
    rw [BadClass, not_or] at hbad
    obtain ⟨left, right, h⟩ := (cut_cases l).resolve_left hbad.1
    obtain ⟨name, hn, hb⟩ : ∃ name, name ≠ [] ∧ Text.trim right = name ++ [':'] := by
      by_contra hc
      exact hbad.2 ⟨left, right, h, hc⟩
    exact ⟨_, name, left, right, h, rfl, hb, hn⟩

theorem exists_classNames_eq_error_iff :
    (∃ f, (ofText n text).classNames = .error f) ↔ (ofText n text).BadClass := by
  rw [← not_iff_not, ← exists_saysClass_iff]
  simp only [← classNames_eq_ok_iff]
  rcases (ofText n text).classNames with f | ⟨o, b⟩
  · simp
  · simp

end Unmask.Mapping.Line
