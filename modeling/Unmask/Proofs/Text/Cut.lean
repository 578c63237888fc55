import Mathlib.Data.List.DropRight
import Mathlib.Tactic.Lemma
import Unmask.Text.Blank

/-!
Cutting at the first place of a separator, taking off a last character, and trimming, each by what
its result says about the text.
-/

namespace Unmask.Text

/-- `s` is cut into `a` and `b` at the first place where `sep` stands. -/
structure CutAt (sep s a b : Text) : Prop where
  eq : s = a ++ sep ++ b
  first : ∀ a' b', s = a' ++ sep ++ b' → a.length ≤ a'.length

lemma CutAt.unique {sep s a b a' b' : Text} (h : CutAt sep s a b) (h' : CutAt sep s a' b') :
    a = a' ∧ b = b' := by
  have hlen : a.length = a'.length := le_antisymm (h.first _ _ h'.eq) (h'.first _ _ h.eq)
  have he : a ++ (sep ++ b) = a' ++ (sep ++ b') := by
    rw [← List.append_assoc, ← List.append_assoc, ← h.eq, h'.eq]
  obtain ⟨ha, hb⟩ := List.append_inj he hlen
  exact ⟨ha, List.append_cancel_left hb⟩

theorem cutAt_eq_none_iff {sep s : Text} : cutAt sep s = none ↔ ¬sep <:+: s := by
  induction s with
  | nil => by_cases h : sep = [] <;> simp [cutAt, h]
  | cons d r ih =>
    rw [cutAt, List.infix_cons_iff]
    split
    · next rest h =>
      have hp : sep <+: d :: r := ⟨rest, List.isPrefixOf?_eq_some_iff_append_eq.1 h⟩
      simp [hp]
    · next h =>
      have hp : ¬sep <+: d :: r := by
        rintro ⟨rest, he⟩
        rw [List.isPrefixOf?_eq_some_iff_append_eq.2 he] at h
        cases h
      simp [hp, ih]

lemma cutAt_of_eq_some {sep s a b : Text} (h : cutAt sep s = some (a, b)) : CutAt sep s a b := by
  induction s generalizing a with
  | nil =>
    rw [cutAt] at h
    split at h
    · next hs => cases h; exact ⟨by simp [hs], by simp⟩
    · cases h
  | cons d r ih =>
    rw [cutAt] at h
    split at h
    · next rest hp =>
      cases h
      exact ⟨by simp [List.isPrefixOf?_eq_some_iff_append_eq.1 hp], by simp⟩
    · next hp =>
      obtain ⟨⟨a', b'⟩, hc, he⟩ := Option.map_eq_some_iff.1 h
      cases he
      have hr := ih hc
      refine ⟨by rw [hr.eq]; simp, fun u v huv => ?_⟩
      rcases u with _ | ⟨x, u⟩
      · -- here the separator would stand in front
        rw [List.isPrefixOf?_eq_some_iff_append_eq.2 (by simpa using huv.symm)] at hp
        cases hp
      · have hru : r = u ++ sep ++ v := by simpa using (List.cons.inj huv).2
        have := hr.first _ _ hru
        simp only [List.length_cons]; omega

theorem cutAt_eq_some_iff {sep s a b : Text} : cutAt sep s = some (a, b) ↔ CutAt sep s a b := by
  constructor
  · exact cutAt_of_eq_some
  · intro h
    have hne : cutAt sep s ≠ none := fun hn => cutAt_eq_none_iff.1 hn ⟨a, b, h.eq.symm⟩
    obtain ⟨⟨a', b'⟩, hc⟩ := Option.ne_none_iff_exists'.1 hne
    obtain ⟨rfl, rfl⟩ := h.unique (cutAt_of_eq_some hc)
    exact hc

/-- A separator that starts with `c` is first found where the first `c` is. -/
lemma cutAt_of_not_mem {c : Char} {sep a : Text} (b : Text) (h : c ∉ a) :
    CutAt (c :: sep) (a ++ c :: sep ++ b) a b where
  eq := rfl
  first a' b' he := by
    rw [List.append_assoc, List.append_assoc, List.append_eq_append_iff] at he
    rcases he with ⟨more, rfl, -⟩ | ⟨more, rfl, he⟩
    · simp
    · rcases more with _ | ⟨d, more⟩
      · simp
      · obtain ⟨rfl, -⟩ := List.cons.inj he
        simp at h

/-- In front of a text that is cut, nothing is found in a text without the separator, nor across a
character that is not in it. -/
lemma CutAt.append_cons {c : Char} {sep s x y a : Text} (h : CutAt sep s x y) (hc : c ∉ sep)
    (ha : ¬sep <:+: a) : CutAt sep (a ++ c :: s) (a ++ c :: x) y where
  eq := by simp [h.eq]
  first a' b' he := by
    -- the separator cannot start in `a`: it would lie there whole or reach across `c`
    have hstart (z) (hz : a = a' ++ z) : z ++ c :: s ≠ sep ++ b' := by
      intro hsep
      rcases List.append_eq_append_iff.1 hsep with ⟨w, rfl, hw⟩ | ⟨w, rfl, -⟩
      · rcases w with _ | ⟨d, w⟩
        · exact ha ⟨a', [], by simpa using hz.symm⟩
        · obtain ⟨rfl, -⟩ := List.cons.inj hw
          simp at hc
      · exact ha ⟨a', w, by rw [hz, List.append_assoc]⟩
    rw [List.append_assoc] at he
    rcases List.append_eq_append_iff.1 he with ⟨w, rfl, hw⟩ | ⟨z, hz, hsep⟩
    · rcases w with _ | ⟨d, w⟩
      · exact absurd hw (hstart [] (by simp))
      · obtain ⟨rfl, rfl⟩ := List.cons.inj hw
        have hle := h.first w b' (by rw [List.append_eq, List.append_assoc])
        simp only [List.length_append, List.length_cons]
        omega
    · exact absurd hsep.symm (hstart z hz)

theorem dropLast?_eq_some_iff {c : Char} {s a : Text} :
    dropLast? c s = some a ↔ s = a ++ [c] := by
  rw [dropLast?]
  constructor
  · intro h
    split at h
    · next hl =>
      cases h
      obtain ⟨r, rfl⟩ := List.getLast?_eq_some_iff.1 hl
      simp
    · cases h
  · rintro rfl
    simp

/-! ### Trimming -/

lemma trimEnd_eq (s : Text) : trimEnd s = s.rdropWhile isBlank := rfl

/-- Trimmed text does not start with a blank. -/
theorem head?_trim {s : Text} {c : Char} (h : (trim s).head? = some c) : isBlank c = false := by
  have hp : trim s <+: trimStart s := List.rdropWhile_prefix _ _
  obtain ⟨t, ht⟩ := hp
  have hs : (trimStart s).head? = some c := by
    rw [← ht, List.head?_append, h]; rfl
  have := List.head?_dropWhile_not isBlank s
  rw [show List.dropWhile isBlank s = trimStart s from rfl, hs] at this
  exact this

/-- Trimmed text does not end with a blank. -/
theorem getLast?_trim {s : Text} {c : Char} (h : (trim s).getLast? = some c) :
    isBlank c = false := by
  obtain ⟨r, hr⟩ := List.getLast?_eq_some_iff.1 h
  have hne : (trimStart s).rdropWhile isBlank ≠ [] := by
    rw [← trimEnd_eq, ← trim, hr]; simp
  have hl := List.rdropWhile_last_not _ _ hne
  have he : (trimStart s).rdropWhile isBlank = r ++ [c] := hr
  simpa [he] using hl

theorem trim_eq_nil_iff {s : Text} : trim s = [] ↔ ∀ c ∈ s, isBlank c := by
  rw [trim, trimEnd_eq, List.rdropWhile_eq_nil_iff, trimStart]
  constructor
  · intro h c hc
    rw [← List.takeWhile_append_dropWhile (p := isBlank) (l := s), List.mem_append] at hc
    rcases hc with hc | hc
    · exact List.mem_takeWhile_imp hc
    · exact h c hc
  · exact fun h c hc => h c ((List.dropWhile_suffix _).mem hc)

lemma trim_ne_nil {s : Text} {c : Char} (hc : c ∈ s) (hb : isBlank c = false) : trim s ≠ [] := by
  intro h
  rw [trim_eq_nil_iff.1 h c hc] at hb
  cases hb

lemma trimEnd_eq_self {s : Text} (h : ∀ c, s.getLast? = some c → isBlank c = false) :
    trimEnd s = s := by
  rcases List.eq_nil_or_concat s with rfl | ⟨r, c, rfl⟩
  · rfl
  · have hc : isBlank c = false := h c (by simp)
    simp [trimEnd, hc]

/-- Without blanks at its ends a text is trimmed. -/
lemma trim_eq_self {s : Text} (hstart : ∀ c, s.head? = some c → isBlank c = false)
    (hend : ∀ c, s.getLast? = some c → isBlank c = false) : trim s = s := by
  have htrim : trimStart s = s := by
    rcases s with _ | ⟨c, r⟩
    · rfl
    · simp [trimStart, hstart c rfl]
  rw [trim, htrim, trimEnd_eq_self hend]

lemma trim_trim (s : Text) : trim (trim s) = trim s :=
  trim_eq_self (fun _ => head?_trim) fun _ => getLast?_trim

lemma trim_blanks_append {blanks : Text} (h : ∀ c ∈ blanks, isBlank c = true) (s : Text) :
    trim (blanks ++ s) = trim s := by
  rw [trim, trimStart, List.dropWhile_append_of_pos h, trim, trimStart]

/-! ### The last part -/

/-- `last` is what follows the last `c` in the text, or all of it if there is none. -/
structure LastPart (c : Char) (s last : Text) : Prop where
  free : c ∉ last
  eq : s = last ∨ ∃ front, s = front ++ c :: last

/-- The last `c` with `p` is cut off with all in front of it. -/
lemma afterLast_append_cons {p : Char → Bool} {c : Char} {w : Text} (s : Text) (hc : p c = true)
    (hw : ∀ x ∈ w, p x = false) : afterLast p (s ++ c :: w) = w := by
  have hreverse : ∀ x ∈ w.reverse, (!p x) = true := by simpa using hw
  have happ : (s ++ c :: w).reverse = w.reverse ++ c :: s.reverse := by simp
  rw [afterLast, happ, List.takeWhile_append_of_pos hreverse,
    List.takeWhile_cons_of_neg (by simp [hc]), List.append_nil, List.reverse_reverse]

lemma afterLast_eq_self {p : Char → Bool} {s : Text} (h : ∀ x ∈ s, p x = false) :
    afterLast p s = s := by
  have hreverse : ∀ x ∈ s.reverse, (!p x) = true := by simpa using h
  rw [afterLast, List.takeWhile_eq_self_iff.2 hreverse, List.reverse_reverse]

lemma lastPart_afterLast (c : Char) (s : Text) : LastPart c s (afterLast (· = c) s) := by
  have hfree {w : Text} (hw : c ∉ w) : ∀ x ∈ w, decide (x = c) = false := by
    intro x hx
    rw [decide_eq_false_iff_not]
    rintro rfl
    exact hw hx
  rcases hcut : cutLast c s with _ | ⟨front, w⟩
  · have hc := cutLast_eq_none.1 hcut
    rw [afterLast_eq_self (hfree hc)]
    exact ⟨hc, .inl rfl⟩
  · obtain ⟨rfl, hw⟩ := eq_of_cutLast hcut
    rw [afterLast_append_cons front (decide_eq_true rfl) (hfree hw)]
    exact ⟨hw, .inr ⟨front, rfl⟩⟩

end Unmask.Text
