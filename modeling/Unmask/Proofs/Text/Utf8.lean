import Mathlib.Algebra.Group.Nat.Defs
import Mathlib.Tactic.Lemma
import Unmask.Text.Utf8

/-!
Reading and writing UTF-8 undo each other. Behind its first octet a character is a number written
in octets of six bits, and the machine counts those that are owed.
-/

namespace Unmask.Text.Utf8

/-- The last `k` octets of the code point `v`. -/
def tail (v : Nat) : Nat → List UInt8
  | 0 => []
  | k + 1 => UInt8.ofNat (v / 64 ^ k % 64 + 0x80) :: tail v k

/-- The code points that a character under way can turn out to be. -/
structure Pending.Allows (p : Pending) (v : Nat) : Prop where
  bits : v / 64 ^ p.owed = p.bits
  low : p.low.toNat ≤ v / 64 ^ (p.owed - 1) % 64 + 0x80
  high : v / 64 ^ (p.owed - 1) % 64 + 0x80 ≤ p.high.toNat

variable {p : Pending} {v k : Nat} {b : UInt8} {c : Char} {bytes rest : List UInt8} {s : Text}

lemma tail_succ (v k : Nat) :
    tail v (k + 1) = UInt8.ofNat (v / 64 ^ k % 64 + 0x80) :: tail v k := rfl

lemma toNat_six (n : Nat) : (UInt8.ofNat (n % 64 + 0x80)).toNat = n % 64 + 0x80 := by
  rw [UInt8.toNat_ofNat']
  omega

lemma ofNat_eq {n : Nat} (h : n = b.toNat) : UInt8.ofNat n = b := by
  rw [h, UInt8.ofNat_toNat]

/-- Six bits more or less. -/
lemma six_bits (v k : Nat) : v / 64 ^ (k + 1) = v / 64 ^ k / 64 := by
  rw [Nat.pow_succ, Nat.div_div_eq_div_mul]

/-! ### Behind the first octet -/

lemma feed_some_cons (p : Pending) (b : UInt8) (r : List UInt8) : feed (some p) (b :: r) =
    if p.low.toNat ≤ b.toNat ∧ b.toNat ≤ p.high.toNat then
      if p.owed ≤ 1 then
        (feed none r).map (Char.ofNat (p.bits * 64 + (b.toNat - 0x80)) :: ·)
      else feed (some ⟨p.owed - 1, 0x80, 0xbf, p.bits * 64 + (b.toNat - 0x80)⟩) r
    else none := by
  simp only [feed, UInt8.le_iff_toNat_le]

lemma feed_tail (hp : p.owed = k + 1) (h : p.Allows v) :
    feed (some p) (tail v (k + 1) ++ rest) = (feed none rest).map (Char.ofNat v :: ·) := by
  induction k generalizing p with
  | zero =>
    obtain ⟨hb, hl, hh⟩ := h
    rw [hp] at hb hl hh
    rw [tail_succ, List.cons_append, feed_some_cons, toNat_six, if_pos ⟨hl, hh⟩, if_pos (by omega)]
    have hv : p.bits * 64 + (v / 64 ^ 0 % 64 + 0x80 - 0x80) = v := by omega
    rw [hv]
    rfl
  | succ k ih =>
    obtain ⟨hb, hl, hh⟩ := h
    rw [hp] at hb hl hh
    have hd := six_bits v (k + 1)
    have hv : p.bits * 64 + (v / 64 ^ (k + 1) % 64 + 0x80 - 0x80) = v / 64 ^ (k + 1) := by omega
    rw [tail_succ, List.cons_append, feed_some_cons, toNat_six, if_pos ⟨hl, hh⟩,
      if_neg (by omega), hp, hv]
    refine ih rfl ⟨rfl, ?_, ?_⟩
    · show 0x80 ≤ v / 64 ^ k % 64 + 0x80
      omega
    · show v / 64 ^ k % 64 + 0x80 ≤ 0xbf
      omega

lemma tail_of_feed (hp : p.owed = k + 1) (hl : 0x80 ≤ p.low.toNat) (hh : p.high.toNat ≤ 0xbf)
    (h : feed (some p) bytes = some s) : ∃ v rest t, p.Allows v ∧
      bytes = tail v (k + 1) ++ rest ∧ feed none rest = some t ∧ s = Char.ofNat v :: t := by
  induction k generalizing p bytes with
  | zero =>
    rcases bytes with _ | ⟨b, r⟩
    · cases h
    rw [feed_some_cons] at h
    split at h
    · next hb =>
      rw [if_pos (by omega)] at h
      obtain ⟨t, ht, rfl⟩ := Option.map_eq_some_iff.1 h
      refine ⟨_, r, t, ⟨?_, ?_, ?_⟩, ?_, ht, rfl⟩
      · rw [hp]; omega
      · rw [hp]; omega
      · rw [hp]; omega
      · rw [tail_succ, ofNat_eq (b := b) (by omega)]
        rfl
    · cases h
  | succ k ih =>
    rcases bytes with _ | ⟨b, r⟩
    · cases h
    rw [feed_some_cons] at h
    split at h
    · next hb =>
      rw [if_neg (by omega), hp] at h
      obtain ⟨v, rest, t, ⟨hv, -, -⟩, rfl, ht, rfl⟩ := ih rfl (Nat.le_refl _) (Nat.le_refl _) h
      have hv' : v / 64 ^ (k + 1) = p.bits * 64 + (b.toNat - 0x80) := hv
      have hd := six_bits v (k + 1)
      refine ⟨v, rest, t, ⟨?_, ?_, ?_⟩, ?_, ht, rfl⟩
      · rw [hp]; omega
      · rw [hp, Nat.add_sub_cancel]; omega
      · rw [hp, Nat.add_sub_cancel]; omega
      · rw [tail_succ v (k + 1), List.cons_append, ofNat_eq (b := b) (by omega)]
    · cases h

/-! ### The first octet -/

lemma lead_eq (b : UInt8) : lead b =
    if 0xc2 ≤ b.toNat ∧ b.toNat ≤ 0xdf then some ⟨1, 0x80, 0xbf, b.toNat - 0xc0⟩
    else if b.toNat = 0xe0 then some ⟨2, 0xa0, 0xbf, 0⟩
    else if b.toNat = 0xed then some ⟨2, 0x80, 0x9f, 0xd⟩
    else if 0xe1 ≤ b.toNat ∧ b.toNat ≤ 0xef then some ⟨2, 0x80, 0xbf, b.toNat - 0xe0⟩
    else if b.toNat = 0xf0 then some ⟨3, 0x90, 0xbf, 0⟩
    else if 0xf1 ≤ b.toNat ∧ b.toNat ≤ 0xf3 then some ⟨3, 0x80, 0xbf, b.toNat - 0xf0⟩
    else if b.toNat = 0xf4 then some ⟨3, 0x80, 0x8f, 4⟩
    else none := by
  simp only [lead, UInt8.le_iff_toNat_le, ← UInt8.toNat_inj]
  rfl

lemma encodeChar_eq (c : Char) : String.utf8EncodeChar c =
    if c.toNat ≤ 0x7f then [UInt8.ofNat c.toNat]
    else if c.toNat ≤ 0x7ff then UInt8.ofNat (c.toNat / 64 % 0x20 + 0xc0) :: tail c.toNat 1
    else if c.toNat ≤ 0xffff then UInt8.ofNat (c.toNat / 4096 % 0x10 + 0xe0) :: tail c.toNat 2
    else UInt8.ofNat (c.toNat / 262144 % 0x08 + 0xf0) :: tail c.toNat 3 := by
  rw [String.utf8EncodeChar]
  simp only [tail, Nat.reducePow, Nat.div_one]
  rfl

/-- The octet `b` and `k` more spell the code point `v`. -/
def Leads (b : UInt8) (k v : Nat) : Prop :=
  (k = 1 ∧ 0x7f < v ∧ v ≤ 0x7ff ∧ b.toNat = v / 64 + 0xc0) ∨
    (k = 2 ∧ 0x7ff < v ∧ v ≤ 0xffff ∧ (v < 0xd800 ∨ 0xdfff < v) ∧ b.toNat = v / 4096 + 0xe0) ∨
    (k = 3 ∧ 0xffff < v ∧ v ≤ 0x10ffff ∧ b.toNat = v / 262144 + 0xf0)

lemma allows_iff : p.Allows v ↔ v / 64 ^ p.owed = p.bits ∧
    p.low.toNat ≤ v / 64 ^ (p.owed - 1) % 64 + 0x80 ∧
    v / 64 ^ (p.owed - 1) % 64 + 0x80 ≤ p.high.toNat :=
  ⟨fun ⟨hb, hl, hh⟩ => ⟨hb, hl, hh⟩, fun ⟨hb, hl, hh⟩ => ⟨hb, hl, hh⟩⟩

/-- The ranges of the next octet keep to characters in their shortest form. -/
lemma allows_iff_leads (h : lead b = some p) : p.Allows v ↔ Leads b p.owed v := by
  have hb := b.toNat_lt
  rw [allows_iff, Leads]
  rw [lead_eq] at h
  repeat' split at h
  all_goals cases h
  all_goals
    simp only [Nat.reducePow, Nat.reduceSub, UInt8.reduceToNat, Nat.div_one, Nat.reduceEqDiff,
      true_and, false_and, or_false, false_or]
    refine ⟨fun h => ?_, fun h => ?_⟩
    · omega
    · omega

lemma owed_of_lead (h : lead b = some p) :
    (∃ k, p.owed = k + 1) ∧ 0x80 ≤ p.low.toNat ∧ p.high.toNat ≤ 0xbf := by
  rw [lead_eq] at h
  repeat' split at h
  all_goals cases h
  all_goals exact ⟨⟨_, rfl⟩, by simp, by simp⟩

lemma Leads.lead (h : Leads b k v) : ∃ p, lead b = some p ∧ p.owed = k := by
  unfold Leads at h
  rw [lead_eq]
  repeat' split
  all_goals first
    | exact ⟨_, rfl, by simp only; omega⟩
    | omega

lemma toNat_ofNat (h : v.isValidChar) : (Char.ofNat v).toNat = v := by
  rw [Char.ofNat, dif_pos h]
  rfl

/-- A code point that is allowed is one of a character, written with the octets that were read. -/
lemma Leads.encodeChar (h : Leads b k v) :
    String.utf8EncodeChar (Char.ofNat v) = b :: tail v k := by
  have hv : v.isValidChar := by
    unfold Nat.isValidChar
    rcases h with ⟨-, -, h, -⟩ | ⟨-, -, h, h', -⟩ | ⟨-, h, h', -⟩ <;> omega
  rw [encodeChar_eq, toNat_ofNat hv]
  rcases h with ⟨rfl, h⟩ | ⟨rfl, h⟩ | ⟨rfl, h⟩
  · rw [if_neg (by omega), if_pos (by omega), ofNat_eq (b := b) (by omega)]
  · rw [if_neg (by omega), if_neg (by omega), if_pos (by omega), ofNat_eq (b := b) (by omega)]
  · rw [if_neg (by omega), if_neg (by omega), if_neg (by omega), ofNat_eq (b := b) (by omega)]

lemma exists_leads (h : 0x7f < c.toNat) : ∃ b k, Leads b k c.toNat := by
  have hc : c.toNat < 0xd800 ∨ 0xdfff < c.toNat ∧ c.toNat < 0x110000 := c.valid
  rcases Nat.lt_or_ge 0x7ff c.toNat with h2 | h2
  · rcases Nat.lt_or_ge 0xffff c.toNat with h3 | h3
    · refine ⟨UInt8.ofNat (c.toNat / 262144 + 0xf0), 3, Or.inr (Or.inr ⟨rfl, h3, ?_⟩)⟩
      rw [UInt8.toNat_ofNat']
      omega
    · refine ⟨UInt8.ofNat (c.toNat / 4096 + 0xe0), 2, Or.inr (Or.inl ⟨rfl, h2, h3, ?_⟩)⟩
      rw [UInt8.toNat_ofNat']
      omega
  · refine ⟨UInt8.ofNat (c.toNat / 64 + 0xc0), 1, Or.inl ⟨rfl, h, h2, ?_⟩⟩
    rw [UInt8.toNat_ofNat']
    omega

/-! ### Whole texts -/

lemma feed_none_cons (b : UInt8) (r : List UInt8) : feed none (b :: r) =
    if b.toNat < 0x80 then (feed none r).map (Char.ofNat b.toNat :: ·)
    else match lead b with
      | some p => feed (some p) r
      | none => none := by
  simp only [feed, UInt8.lt_iff_toNat_lt]
  rfl

lemma encodeChar_of_lt (h : b.toNat < 0x80) :
    String.utf8EncodeChar (Char.ofNat b.toNat) = [b] := by
  have hv : b.toNat.isValidChar := Or.inl (by omega)
  rw [encodeChar_eq, toNat_ofNat hv, if_pos (by omega), UInt8.ofNat_toNat]

lemma Leads.le (h : Leads b k v) : 0x80 ≤ b.toNat := by
  unfold Leads at h
  omega

lemma feed_encodeChar (c : Char) (rest : List UInt8) :
    feed none (String.utf8EncodeChar c ++ rest) = (feed none rest).map (c :: ·) := by
  rcases Nat.lt_or_ge 0x7f c.toNat with h | h
  · obtain ⟨b, k, hl⟩ := exists_leads h
    obtain ⟨p, hp, rfl⟩ := hl.lead
    obtain ⟨⟨k, hk⟩, -⟩ := owed_of_lead hp
    have he := hl.encodeChar
    have hb := hl.le
    rw [Char.ofNat_toNat, hk] at he
    rw [he, List.cons_append, feed_none_cons, if_neg (by omega), hp]
    show feed (some p) _ = _
    rw [feed_tail hk ((allows_iff_leads hp).2 hl), Char.ofNat_toNat]
  · have hb : (UInt8.ofNat c.toNat).toNat = c.toNat := by
      rw [UInt8.toNat_ofNat']
      omega
    rw [encodeChar_eq, if_pos h, List.cons_append, List.nil_append, feed_none_cons, hb,
      if_pos (by omega), Char.ofNat_toNat]

lemma feed_encode (s : Text) : feed none (encode s) = some s := by
  induction s with
  | nil => rfl
  | cons c s ih =>
    rw [encode, List.flatMap_cons, feed_encodeChar, ← encode, ih]
    rfl

lemma encode_of_feed (h : feed none bytes = some s) : encode s = bytes := by
  -- a character takes one octet or more, so the induction is on their number
  induction hn : bytes.length using Nat.strongRecOn generalizing bytes s with
  | ind n ih =>
    rcases bytes with _ | ⟨b, r⟩
    · cases h
      rfl
    rw [feed_none_cons] at h
    split at h
    · next hb =>
      obtain ⟨t, ht, rfl⟩ := Option.map_eq_some_iff.1 h
      rw [encode, List.flatMap_cons, encodeChar_of_lt hb, ← encode,
        ih r.length (by simp [← hn]) ht rfl]
      rfl
    · rcases hp : lead b with _ | p
      · rw [hp] at h
        cases h
      · rw [hp] at h
        obtain ⟨⟨k, hk⟩, hl, hh⟩ := owed_of_lead hp
        obtain ⟨v, rest, t, hv, rfl, ht, rfl⟩ := tail_of_feed hk hl hh h
        have he := ((allows_iff_leads hp).1 hv).encodeChar
        have hlt : rest.length < n := by
          rw [← hn]
          simp only [List.length_cons, List.length_append]
          omega
        rw [encode, List.flatMap_cons, he, ← encode, ih rest.length hlt ht rfl, hk]
        rfl

/-- **Reading UTF-8.** What is read is the one text that is written as these octets. -/
theorem decode_eq_some_iff : decode bytes = some s ↔ encode s = bytes := by
  refine ⟨encode_of_feed, ?_⟩
  rintro rfl
  exact feed_encode s

theorem decode_eq_none_iff : decode bytes = none ↔ ¬∃ s, encode s = bytes := by
  rw [← Option.not_isSome_iff_eq_none, Option.isSome_iff_exists]
  simp only [decode_eq_some_iff]

/-! ### ASCII -/

lemma le_of_mem_tail (h : b ∈ tail v k) : 0x80 ≤ b.toNat := by
  induction k with
  | zero => cases h
  | succ k ih =>
    rcases List.mem_cons.1 h with rfl | h
    · rw [toNat_six]
      omega
    · exact ih h

/-- An octet of ASCII is no part of another character. -/
lemma eq_ofNat_of_mem_encodeChar (h : b ∈ String.utf8EncodeChar c) (hb : b.toNat < 0x80) :
    c = Char.ofNat b.toNat := by
  rcases Nat.lt_or_ge 0x7f c.toNat with hc | hc
  · obtain ⟨x, k, hl⟩ := exists_leads hc
    have he := hl.encodeChar
    rw [Char.ofNat_toNat] at he
    rw [he] at h
    rcases List.mem_cons.1 h with rfl | h
    · exact absurd hl.le (by omega)
    · exact absurd (le_of_mem_tail h) (by omega)
  · rw [encodeChar_eq, if_pos hc] at h
    obtain rfl := List.mem_singleton.1 h
    rw [UInt8.toNat_ofNat', Nat.mod_eq_of_lt (by omega), Char.ofNat_toNat]

lemma ofNat_mem_of_mem_encode (h : b ∈ encode s) (hb : b.toNat < 0x80) :
    Char.ofNat b.toNat ∈ s := by
  obtain ⟨c, hc, hbc⟩ := List.mem_flatMap.1 h
  exact eq_ofNat_of_mem_encodeChar hbc hb ▸ hc

end Unmask.Text.Utf8
