import Unmask.Proofs.Text.Cut

/-!
Replacing one character by another. Where neither of the two is looked for, text is cut and
trimmed as if nothing had been replaced.
-/

namespace Unmask.Text

variable {old new c : Char} {s : Text}

@[simp] lemma replace_nil (old new : Char) : replace old new [] = [] := rfl

@[simp] lemma replace_cons (old new c : Char) (s : Text) :
    replace old new (c :: s) = (if c = old then new else c) :: replace old new s := rfl

@[simp] lemma replace_append (old new : Char) (s t : Text) :
    replace old new (s ++ t) = replace old new s ++ replace old new t := List.map_append

@[simp] lemma replace_eq_nil_iff : replace old new s = [] ↔ s = [] := List.map_eq_nil_iff

lemma length_replace (old new : Char) (s : Text) : (replace old new s).length = s.length :=
  List.length_map _

/-- A character that is neither the old nor the new one stands where it stood. -/
lemma replaced_eq_iff {d : Char} (ho : c ≠ old) (hn : c ≠ new) :
    (if d = old then new else d) = c ↔ d = c := by
  by_cases h : d = old
  · subst h
    rw [if_pos rfl]
    exact ⟨fun he => absurd he.symm hn, fun he => absurd he.symm ho⟩
  · rw [if_neg h]

lemma head?_replace_eq_some_iff (ho : c ≠ old) (hn : c ≠ new) :
    (replace old new s).head? = some c ↔ s.head? = some c := by
  cases s with
  | nil => rfl
  | cons d r => simpa using replaced_eq_iff ho hn

/-- Text without the two characters stands where it stood. -/
lemma replace_eq_iff {sep : Text} (ho : old ∉ sep) (hn : new ∉ sep) :
    replace old new s = sep ↔ s = sep := by
  induction s generalizing sep with
  | nil => rfl
  | cons d r ih =>
    rcases sep with _ | ⟨c, sep⟩
    · simp
    · simp only [List.mem_cons, not_or] at ho hn
      rw [replace_cons, List.cons.injEq, List.cons.injEq, ih ho.2 hn.2,
        replaced_eq_iff (Ne.symm ho.1) (Ne.symm hn.1)]

lemma replace_replace (old new : Char) (s : Text) :
    replace new old (replace old new s) = replace new old s := by
  induction s with
  | nil => rfl
  | cons c r ih =>
    rw [replace_cons, replace_cons, replace_cons, ih]
    by_cases hc : c = old
    · simp [hc]
    · simp [hc]

/-- The last part ends up behind the same place if the new character was nowhere else. -/
lemma LastPart.replace {last : Text} (h : LastPart old s last) (hn : new ∉ s) :
    LastPart new (replace old new s) last where
  free := by
    rcases h.eq with rfl | ⟨front, rfl⟩
    · exact hn
    · exact fun hc => hn (List.mem_append_right _ (List.mem_cons_of_mem _ hc))
  eq := by
    rcases h.eq with rfl | ⟨front, rfl⟩
    · exact .inl (replace_eq_self h.free)
    · refine .inr ⟨Text.replace old new front, ?_⟩
      rw [replace_append, replace_cons, if_pos rfl, replace_eq_self h.free]

/-! ### Trimming -/

lemma isBlank_replaced (ho : isBlank old = false) (hn : isBlank new = false) (c : Char) :
    isBlank (if c = old then new else c) = isBlank c := by
  by_cases h : c = old
  · rw [if_pos h, h, ho, hn]
  · rw [if_neg h]

lemma dropWhile_replace (ho : isBlank old = false) (hn : isBlank new = false) (s : Text) :
    (replace old new s).dropWhile isBlank = replace old new (s.dropWhile isBlank) := by
  have hblank : (isBlank ∘ fun c => if c = old then new else c) = isBlank :=
    funext (isBlank_replaced ho hn)
  rw [replace, List.dropWhile_map, hblank]
  rfl

theorem trim_replace (ho : isBlank old = false) (hn : isBlank new = false) (s : Text) :
    trim (replace old new s) = replace old new (trim s) := by
  have hreverse (s : Text) : (replace old new s).reverse = replace old new s.reverse :=
    List.map_reverse.symm
  rw [trim, trimEnd, trimStart, dropWhile_replace ho hn, hreverse, dropWhile_replace ho hn,
    hreverse]
  rfl

/-! ### Cutting -/

/-- Where a separator stands in the text with the replacement, it stood before. -/
lemma exists_of_replace_eq {sep a b : Text} (ho : old ∉ sep) (hn : new ∉ sep)
    (h : replace old new s = a ++ sep ++ b) :
    ∃ a' b', s = a' ++ sep ++ b' ∧ replace old new a' = a ∧ replace old new b' = b := by
  obtain ⟨front, b', rfl, hfront, hb⟩ := List.map_eq_append_iff.1 h
  obtain ⟨a', mid, rfl, ha, hmid⟩ := List.map_eq_append_iff.1 hfront
  obtain rfl := (replace_eq_iff ho hn).1 hmid
  exact ⟨a', b', rfl, ha, hb⟩

lemma CutAt.replace {sep a b : Text} (h : CutAt sep s a b) (ho : old ∉ sep) (hn : new ∉ sep) :
    CutAt sep (replace old new s) (replace old new a) (replace old new b) where
  eq := by
    rw [h.eq, replace_append, replace_append, (replace_eq_iff ho hn).2 rfl]
  first a' b' he := by
    obtain ⟨a₁, b₁, hs, rfl, rfl⟩ := exists_of_replace_eq ho hn he
    rw [length_replace, length_replace]
    exact h.first a₁ b₁ hs

lemma infix_replace_iff {sep : Text} (ho : old ∉ sep) (hn : new ∉ sep) :
    sep <:+: replace old new s ↔ sep <:+: s := by
  constructor
  · rintro ⟨a, b, he⟩
    obtain ⟨a', b', rfl, -⟩ := exists_of_replace_eq ho hn he.symm
    exact ⟨a', b', rfl⟩
  · rintro ⟨a, b, rfl⟩
    refine ⟨replace old new a, replace old new b, ?_⟩
    rw [replace_append, replace_append, (replace_eq_iff ho hn).2 rfl]

end Unmask.Text
