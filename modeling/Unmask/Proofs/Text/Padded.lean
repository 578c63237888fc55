import Unmask.Proofs.Text.Cut
import Unmask.Proofs.Text.Pieces
import Unmask.Proofs.Text.Utf8

/-!
Files that differ in what cannot be seen: a byte order mark, carriage returns in front of line
feeds, blanks at the ends of lines. An ASCII octet behind a line is a character behind its text,
whether or not the line is UTF-8.
-/

namespace Unmask.Text

/-- A tab, a carriage return or a space. -/
def IsPad (b : UInt8) : Prop := b = 0x09 ∨ b = 0x0d ∨ b = 0x20

/-- The second file is the first with blanks put in at ends of lines: in front of line feeds, in
front of carriage returns that belong to them, and at the end of the file. -/
inductive Padded : List UInt8 → List UInt8 → Prop
  | finish {pad} (pads : ∀ b ∈ pad, IsPad b) : Padded [] pad
  | octet {r r'} (b : UInt8) (rest : Padded r r') : Padded (b :: r) (b :: r')
  | lineFeed {pad r r'} (pads : ∀ b ∈ pad, IsPad b) (rest : Padded r r') :
    Padded (0x0a :: r) (pad ++ 0x0a :: r')
  | returned {pad r r'} (pads : ∀ b ∈ pad, IsPad b) (rest : Padded r r') :
    Padded (0x0d :: 0x0a :: r) (pad ++ 0x0d :: 0x0a :: r')

/-- The file with a carriage return in front of every line feed. -/
def withReturns (bytes : List UInt8) : List UInt8 :=
  bytes.flatMap fun b => if b = 0x0a then [0x0d, 0x0a] else [b]

/-- The byte order mark as it stands in a file. -/
def mark : List UInt8 := Utf8.encode ['\ufeff']

variable {b : UInt8} {bytes bytes' pad seen : List UInt8} {s blanks : Text}

/-! ### Blanks behind a text -/

lemma trimEnd_append_blanks (s : Text) (h : ∀ c ∈ blanks, isBlank c = true) :
    trimEnd (s ++ blanks) = trimEnd s := by
  have hreverse : ∀ c ∈ blanks.reverse, isBlank c = true := by simpa using h
  rw [trimEnd, List.reverse_append, List.dropWhile_append_of_pos hreverse, trimEnd]

theorem trim_append_blanks (s : Text) (h : ∀ c ∈ blanks, isBlank c = true) :
    trim (s ++ blanks) = trim s := by
  rw [trim, trim, trimStart, List.dropWhile_append]
  rcases hs : s.dropWhile isBlank with _ | ⟨c, r⟩
  · have hnil : blanks.dropWhile isBlank = [] := List.dropWhile_eq_nil_iff.2 h
    rw [List.isEmpty_nil, if_pos rfl, hnil, trimStart, hs]
  · rw [List.isEmpty_cons, if_neg Bool.false_ne_true, trimStart, hs]
    exact trimEnd_append_blanks (c :: r) h

/-! ### ASCII behind a line -/

namespace Utf8

lemma encode_append (s t : Text) : encode (s ++ t) = encode s ++ encode t := List.flatMap_append

lemma encode_singleton (c : Char) : encode [c] = String.utf8EncodeChar c := by
  rw [encode, List.flatMap_singleton]

/-- The last octet of several holds six bits, so it is not ASCII. -/
lemma getLast?_cons_tail (x : UInt8) (v k : Nat) :
    (x :: tail v (k + 1)).getLast? = some (UInt8.ofNat (v % 64 + 0x80)) := by
  induction k generalizing x with
  | zero => simp [tail]
  | succ k ih =>
    rw [tail_succ, List.getLast?_cons_cons]
    exact ih _

/-- A character whose last octet is ASCII has no other. -/
lemma encodeChar_of_getLast? {c : Char} (h : (String.utf8EncodeChar c).getLast? = some b)
    (hb : b.toNat < 0x80) : String.utf8EncodeChar c = [b] := by
  have hnot {x : UInt8} {k : Nat} : (x :: tail c.toNat (k + 1)).getLast? ≠ some b := by
    intro hl
    rw [getLast?_cons_tail] at hl
    obtain rfl := Option.some.inj hl
    rw [toNat_six] at hb
    omega
  rw [encodeChar_eq] at h ⊢
  split_ifs at h ⊢
  · simpa using h
  · exact absurd h hnot
  · exact absurd h hnot
  · exact absurd h hnot

lemma encode_ofNat (h : b.toNat < 0x80) : encode [Char.ofNat b.toNat] = [b] := by
  rw [encode_singleton, encodeChar_of_lt h]

/-- **ASCII behind a line.** It is one more character if the line is UTF-8, and makes no UTF-8 of
a line that is none. -/
theorem decode_concat (bytes : List UInt8) (h : b.toNat < 0x80) :
    decode (bytes ++ [b]) = (decode bytes).map (· ++ [Char.ofNat b.toNat]) := by
  rcases hd : decode bytes with _ | s
  · rw [Option.map_none, decode_eq_none_iff]
    rintro ⟨t, ht⟩
    rcases List.eq_nil_or_concat t with rfl | ⟨t, c, rfl⟩
    · simp [encode] at ht
    · -- the last character can be nothing but the octet
      rw [List.concat_eq_append, encode_append, encode_singleton] at ht
      have hne : String.utf8EncodeChar c ≠ [] := by
        intro hnil
        have := String.length_utf8EncodeChar c
        rw [hnil] at this
        exact absurd this.symm (Nat.ne_of_gt c.utf8Size_pos)
      have hlast : (String.utf8EncodeChar c).getLast? = some b := by
        have := congrArg List.getLast? ht
        rwa [List.getLast?_append_of_ne_nil _ hne, List.getLast?_concat] at this
      rw [encodeChar_of_getLast? hlast h] at ht
      exact decode_eq_none_iff.1 hd ⟨t, List.append_cancel_right ht⟩
  · rw [Option.map_some, decode_eq_some_iff, encode_append, decode_eq_some_iff.1 hd,
      encode_ofNat h]

lemma decode_append_ascii (bytes : List UInt8) (h : ∀ b ∈ pad, b.toNat < 0x80) :
    decode (bytes ++ pad) =
      (decode bytes).map (· ++ pad.map fun b => Char.ofNat b.toNat) := by
  induction pad using List.reverseRecOn with
  | nil => simp
  | append_singleton pad b ih =>
    have hb : b.toNat < 0x80 := h b (by simp)
    rw [← List.append_assoc, decode_concat _ hb, ih fun c hc => h c (by simp [hc]),
      Option.map_map, List.map_append]
    refine congrArg (Option.map · _) (funext fun s => ?_)
    exact List.append_assoc _ _ _

lemma decode_mark_append (bytes : List UInt8) :
    decode (mark ++ bytes) = (decode bytes).map ('\ufeff' :: ·) := by
  rw [mark, encode_singleton]
  exact feed_encodeChar '\ufeff' bytes

end Utf8

lemma IsPad.lt (h : IsPad b) : b.toNat < 0x80 := by
  rcases h with rfl | rfl | rfl <;> decide

lemma IsPad.isBlank (h : IsPad b) : isBlank (Char.ofNat b.toNat) = true := by
  rcases h with rfl | rfl | rfl <;> decide

/-! ### Lines -/

/-- The line that is read is all of the line but a carriage return. -/
lemma exists_ended_append (seen : List UInt8) :
    ∃ pad, (∀ b ∈ pad, IsPad b) ∧ seen.reverse = ended seen ++ pad := by
  unfold ended
  split
  · exact ⟨[0x0d], by simp [IsPad], by simp⟩
  · exact ⟨[], by simp, by simp⟩

lemma ended_cons_of_ne (h : b ≠ 0x0d) (seen : List UInt8) :
    ended (b :: seen) = (b :: seen).reverse := by
  unfold ended
  split
  · next he => exact absurd (List.cons.inj he).1 h
  · rfl

/-- A line keeps what stood in it when blanks are put in at its end. -/
lemma exists_ended_reverse_append (seen : List UInt8) (h : ∀ b ∈ pad, IsPad b) :
    ∃ pad', (∀ b ∈ pad', IsPad b) ∧ ended (pad.reverse ++ seen) = ended seen ++ pad' := by
  rcases List.eq_nil_or_concat pad with rfl | ⟨front, b, rfl⟩
  · exact ⟨[], by simp, by simp⟩
  obtain ⟨ret, hret, hseen⟩ := exists_ended_append seen
  have hfront : ∀ b ∈ front, IsPad b := fun b hb => h b (by simp [hb])
  have hpads : ∀ b ∈ ret ++ front, IsPad b := fun b hb =>
    (List.mem_append.1 hb).elim (hret b) (hfront b)
  have hline : (front.reverse ++ seen).reverse = ended seen ++ (ret ++ front) := by
    rw [List.reverse_append, List.reverse_reverse, hseen, List.append_assoc]
  by_cases hb : b = 0x0d
  · refine ⟨ret ++ front, hpads, ?_⟩
    rw [hb, List.concat_eq_append, List.reverse_append]
    exact hline
  · refine ⟨ret ++ front ++ [b], ?_, ?_⟩
    · intro c hc
      rcases List.mem_append.1 hc with hc | hc
      · exact hpads c hc
      · exact List.mem_singleton.1 hc ▸ h b (by simp)
    · rw [List.concat_eq_append, List.reverse_append, List.reverse_singleton,
        List.singleton_append, List.cons_append, ended_cons_of_ne hb, List.reverse_cons, hline,
        List.append_assoc]

lemma linesFrom_pad_append (seen bytes : List UInt8) (h : ∀ b ∈ pad, IsPad b) :
    linesFrom seen (pad ++ bytes) = linesFrom (pad.reverse ++ seen) bytes := by
  induction pad generalizing seen with
  | nil => rfl
  | cons b pad ih =>
    have hb : b ≠ 0x0a := by
      rcases h b (by simp) with rfl | rfl | rfl <;> decide
    rw [List.cons_append, linesFrom_cons, if_neg hb, ih _ fun c hc => h c (by simp [hc])]
    simp

lemma linesFrom_of_pads (seen : List UInt8) (h : ∀ b ∈ pad, IsPad b) :
    linesFrom seen pad = if seen = [] ∧ pad = [] then [] else [seen.reverse ++ pad] := by
  refine linesFrom_of_free (fun hm => ?_) seen
  rcases h _ hm with h | h | h <;> exact absurd h (by decide)

/-- What stands in front of a file stands in front of its first line. -/
lemma linesFrom_append_reverse {front : List UInt8} (hfront : ended front.reverse = front)
    (hne : front ≠ []) (seen bytes : List UInt8) :
    linesFrom (seen ++ front.reverse) bytes =
      match linesFrom seen bytes with
      | [] => [front]
      | l :: ls => (front ++ l) :: ls := by
  induction bytes generalizing seen with
  | nil =>
    rcases seen with _ | ⟨s, seen⟩
    · simp [linesFrom, hne]
    · simp [linesFrom]
  | cons b r ih =>
    rw [linesFrom_cons, linesFrom_cons]
    by_cases hb : b = 0x0a
    · rw [if_pos hb, if_pos hb]
      have hended : ended (seen ++ front.reverse) = front ++ ended seen := by
        rcases seen with _ | ⟨s, seen⟩
        · simpa [ended] using hfront
        · rw [List.cons_append]
          by_cases hs : s = 0x0d
          · subst hs
            simp [ended]
          · rw [ended_cons_of_ne hs, ended_cons_of_ne hs]
            simp
      rw [hended]
    · rw [if_neg hb, if_neg hb]
      exact ih (b :: seen)

lemma lines_mark_append (bytes : List UInt8) :
    lines (mark ++ bytes) =
      match lines bytes with
      | [] => [mark]
      | l :: ls => (mark ++ l) :: ls := by
  have hended : ended mark.reverse = mark := by decide
  have hfront := linesFrom_append_reverse hended (by decide) [] bytes
  rw [List.nil_append] at hfront
  exact hfront

lemma Padded.append_left (h : Padded bytes bytes') (front : List UInt8) :
    Padded (front ++ bytes) (front ++ bytes') := by
  induction front with
  | nil => exact h
  | cons b front ih => exact .octet b ih

lemma padded_refl (bytes : List UInt8) : Padded bytes bytes := by
  have h : Padded [] [] := .finish (by simp)
  simpa using h.append_left bytes

lemma padded_withReturns (bytes : List UInt8) : Padded bytes (withReturns bytes) := by
  induction bytes with
  | nil => exact .finish (by simp [withReturns])
  | cons b r ih =>
    rw [withReturns, List.flatMap_cons, ← withReturns]
    by_cases hb : b = 0x0a
    · have hreturn : ∀ c ∈ [(0x0d : UInt8)], IsPad c := by simp [IsPad]
      rw [hb, if_pos rfl]
      exact .lineFeed hreturn ih
    · rw [if_neg hb]
      exact .octet b ih

end Unmask.Text
