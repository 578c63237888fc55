import Mathlib.Tactic.Lemma
import Unmask.Descriptor.Offsets

/-!
Cutting text at offsets in octets. A cut succeeds just if it runs forwards inside of the text, from
one boundary between characters to another, and then it gives what stands there.
-/

namespace Unmask.Text

variable {s part a b : Text} {c : Char} {n start stop : Nat}

lemma splitOctets?_of_append (a b : Text) : splitOctets? (octets a) (a ++ b) = some (a, b) := by
  induction a with
  | nil => cases b <;> rfl
  | cons c r ih =>
    obtain ⟨n, hn⟩ : ∃ n, octets (c :: r) = n + 1 :=
      ⟨octets (c :: r) - 1, by have := c.utf8Size_pos; rw [octets_cons]; omega⟩
    have hle : c.utf8Size ≤ n + 1 := by rw [octets_cons] at hn; omega
    have hrest : n + 1 - c.utf8Size = octets r := by rw [octets_cons] at hn; omega
    rw [hn, List.cons_append, splitOctets?, if_pos hle, hrest, ih]
    rfl

theorem splitOctets?_eq_some_iff : splitOctets? n s = some (a, b) ↔ s = a ++ b ∧ octets a = n := by
  constructor
  · intro h
    fun_induction splitOctets? n s generalizing a with
    | case1 s =>
      cases h
      exact ⟨rfl, rfl⟩
    | case2 => cases h
    | case3 n c r hle ih =>
      obtain ⟨⟨a', b'⟩, hr, he⟩ := Option.map_eq_some_iff.1 h
      cases he
      obtain ⟨rfl, hn⟩ := ih hr
      refine ⟨rfl, ?_⟩
      rw [octets_cons, hn]
      omega
    | case4 => cases h
  · rintro ⟨rfl, rfl⟩
    exact splitOctets?_of_append a b

theorem cutOut?_eq_some_iff : s.cutOut? start stop = some part ↔
    ∃ front back, s = front ++ part ++ back ∧ octets front = start ∧
      start + octets part = stop := by
  rw [cutOut?]
  constructor
  · intro h
    split at h
    · next hle =>
      obtain ⟨⟨front, rest⟩, hfront, h⟩ := Option.bind_eq_some_iff.1 h
      obtain ⟨⟨part', back⟩, hpart, rfl⟩ := Option.map_eq_some_iff.1 h
      obtain ⟨rfl, ho⟩ := splitOctets?_eq_some_iff.1 hfront
      obtain ⟨hrest, hp⟩ := splitOctets?_eq_some_iff.1 hpart
      simp only at hrest
      refine ⟨front, back, by rw [hrest, List.append_assoc], ho, ?_⟩
      simp only [hp]
      omega
    · cases h
  · rintro ⟨front, back, rfl, rfl, rfl⟩
    have hlen : octets front + octets part - octets front = octets part := by omega
    rw [if_pos (Nat.le_add_right _ _), hlen, List.append_assoc, splitOctets?_of_append]
    simp [splitOctets?_of_append]

/-! ### Bounds -/

/-- The offset lies between two characters of the text, or at one of its ends. -/
def IsBoundary (s : Text) (n : Nat) : Prop := ∃ front back, s = front ++ back ∧ octets front = n

structure InBounds (s : Text) (start stop : Nat) : Prop where
  le : start ≤ stop
  stop_le : stop ≤ octets s
  start_boundary : s.IsBoundary start
  stop_boundary : s.IsBoundary stop

lemma inBounds_of_cutOut? (h : s.cutOut? start stop = some part) : s.InBounds start stop := by
  obtain ⟨front, back, rfl, rfl, rfl⟩ := cutOut?_eq_some_iff.1 h
  refine ⟨Nat.le_add_right _ _, ?_, ⟨front, part ++ back, List.append_assoc _ _ _, rfl⟩,
    ⟨front ++ part, back, rfl, octets_append _ _⟩⟩
  simp only [octets_append]
  omega

/-- The text in front of the nearer of two boundaries is in front of the other one. -/
lemma exists_append_of_octets_le {a' b' : Text} (he : a ++ b = a' ++ b')
    (hle : octets a ≤ octets a') : ∃ r, a' = a ++ r := by
  rcases List.append_eq_append_iff.1 he with ⟨r, rfl, -⟩ | ⟨r, rfl, -⟩
  · exact ⟨r, rfl⟩
  · obtain rfl : r = [] := by
      rcases r with _ | ⟨c, r⟩
      · rfl
      · have := c.utf8Size_pos
        rw [octets_append, octets_cons] at hle
        omega
    exact ⟨[], by simp⟩

theorem exists_cutOut?_iff :
    (∃ part, s.cutOut? start stop = some part) ↔ s.InBounds start stop := by
  constructor
  · rintro ⟨part, h⟩
    exact inBounds_of_cutOut? h
  · rintro ⟨hle, -, ⟨front, back, hs, rfl⟩, ⟨front', back', hs', rfl⟩⟩
    obtain ⟨part, rfl⟩ := exists_append_of_octets_le (hs.symm.trans hs') hle
    exact ⟨part, cutOut?_eq_some_iff.2 ⟨front, back', hs', rfl, (octets_append _ _).symm⟩⟩

lemma add_octets_of_cutOut? (h : s.cutOut? start stop = some part) :
    start + octets part = stop := by
  obtain ⟨-, -, -, -, hstop⟩ := cutOut?_eq_some_iff.1 h
  exact hstop

/-! ### Cuts beside each other -/

lemma cutOut?_append_left (h : s.cutOut? start stop = some (a ++ b)) :
    s.cutOut? start (start + octets a) = some a := by
  obtain ⟨front, back, rfl, ho, -⟩ := cutOut?_eq_some_iff.1 h
  exact cutOut?_eq_some_iff.2 ⟨front, b ++ back, by simp, ho, rfl⟩

lemma cutOut?_append_right (h : s.cutOut? start stop = some (a ++ b)) :
    s.cutOut? (start + octets a) stop = some b := by
  obtain ⟨front, back, rfl, rfl, rfl⟩ := cutOut?_eq_some_iff.1 h
  refine cutOut?_eq_some_iff.2 ⟨front ++ a, back, by simp, by simp, ?_⟩
  rw [octets_append]
  omega

lemma octets_eq_zero_iff : octets s = 0 ↔ s = [] := by
  rcases s with _ | ⟨c, r⟩
  · simp
  · have := c.utf8Size_pos
    simp only [octets_cons, reduceCtorEq, iff_false]
    omega

end Unmask.Text
