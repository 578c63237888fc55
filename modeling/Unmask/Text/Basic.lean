/-!
Text as a list of characters, and the ways of cutting it that names, descriptors and mapping
lines are read with.
-/

namespace Unmask

abbrev Text := List Char

namespace Text

/-- The parts before and after the first `c`. -/
def cutFirst (c : Char) : Text → Option (Text × Text)
  | [] => none
  | d :: r => if d = c then some ([], r) else (cutFirst c r).map fun p => (d :: p.1, p.2)

/-- The parts before and after the last `c`. -/
def cutLast (c : Char) : Text → Option (Text × Text)
  | [] => none
  | d :: r =>
    match cutLast c r with
    | some p => some (d :: p.1, p.2)
    | none => if d = c then some ([], r) else none

/-- The parts before and after the first place where `sep` stands. -/
def cutAt (sep : Text) : Text → Option (Text × Text)
  | [] => if sep = [] then some ([], []) else none
  | d :: r =>
    match sep.isPrefixOf? (d :: r) with
    | some rest => some ([], rest)
    | none => (cutAt sep r).map fun p => (d :: p.1, p.2)

/-- The text without its last character, if that is `c`. -/
def dropLast? (c : Char) (s : Text) : Option Text :=
  if s.getLast? = some c then some s.dropLast else none

/-- What follows the last character that satisfies `p`: all of the text if none does. -/
def afterLast (p : Char → Bool) (s : Text) : Text :=
  (s.reverse.takeWhile fun c => !p c).reverse

def replace (old new : Char) (s : Text) : Text :=
  s.map fun c => if c = old then new else c

/-- The number of octets of the text in UTF-8. Positions in a descriptor are counted in them. -/
def octets : Text → Nat
  | [] => 0
  | c :: r => c.utf8Size + octets r

def decimal (n : Nat) : Text := Nat.toDigits 10 n

def isDigit (c : Char) : Bool := '0' ≤ c && c ≤ '9'

/-- The code point of `c` lies in one of the ranges, ends included. -/
def inRanges (ranges : List (Nat × Nat)) (c : Char) : Bool :=
  ranges.any fun r => r.1 ≤ c.toNat && c.toNat ≤ r.2

/-- Text without the old character is as it was. -/
theorem replace_eq_self {old new : Char} {s : Text} (h : old ∉ s) : replace old new s = s := by
  refine (List.map_congr_left fun c hc => if_neg ?_).trans (List.map_id s)
  rintro rfl
  exact h hc

theorem not_mem_replace {old new : Char} (hne : old ≠ new) (s : Text) :
    old ∉ replace old new s := by
  intro h
  obtain ⟨c, -, hc⟩ := List.mem_map.1 h
  by_cases ho : c = old
  · rw [if_pos ho] at hc
    exact hne hc.symm
  · rw [if_neg ho] at hc
    exact ho hc

@[simp] theorem octets_nil : octets [] = 0 := rfl

@[simp] theorem octets_cons (c : Char) (s : Text) : octets (c :: s) = c.utf8Size + octets s := rfl

@[simp] theorem octets_append (s t : Text) : octets (s ++ t) = octets s + octets t := by
  induction s with
  | nil => simp
  | cons c r ih => simp [ih, Nat.add_assoc]

theorem eq_of_cutFirst {c : Char} {s a b : Text} (h : cutFirst c s = some (a, b)) :
    s = a ++ c :: b ∧ c ∉ a := by
  induction s generalizing a with
  | nil => simp [cutFirst] at h
  | cons d r ih =>
    rw [cutFirst] at h
    split at h
    · next hd =>
      obtain ⟨rfl, rfl⟩ : a = [] ∧ b = r := by simpa [eq_comm] using h
      simp [hd]
    · next hd =>
      obtain ⟨p, hp, he⟩ := Option.map_eq_some_iff.1 h
      obtain ⟨rfl, rfl⟩ : d :: p.1 = a ∧ p.2 = b := by simpa using he
      obtain ⟨hs, hn⟩ := ih hp
      exact ⟨by rw [hs]; rfl, by simp [hn, Ne.symm hd]⟩

theorem cutFirst_append {c : Char} {a : Text} (b : Text) (h : c ∉ a) :
    cutFirst c (a ++ c :: b) = some (a, b) := by
  induction a with
  | nil => simp [cutFirst]
  | cons d r ih =>
    simp only [List.mem_cons, not_or] at h
    simp [cutFirst, Ne.symm h.1, ih h.2]

theorem cutFirst_eq_none {c : Char} {s : Text} : cutFirst c s = none ↔ c ∉ s := by
  induction s with
  | nil => simp [cutFirst]
  | cons d r ih => by_cases h : d = c <;> simp [cutFirst, h, ih, eq_comm (a := c)]

theorem cutLast_eq_none {c : Char} {s : Text} : cutLast c s = none ↔ c ∉ s := by
  induction s with
  | nil => simp [cutLast]
  | cons d r ih =>
    rw [cutLast]
    split
    · next p hp => simp [show c ∈ r from Classical.not_not.1 fun hc => by simp [ih.2 hc] at hp]
    · next hn => by_cases h : d = c <;> simp [h, ih.1 hn, eq_comm (a := c)]

theorem eq_of_cutLast {c : Char} {s a b : Text} (h : cutLast c s = some (a, b)) :
    s = a ++ c :: b ∧ c ∉ b := by
  induction s generalizing a with
  | nil => simp [cutLast] at h
  | cons d r ih =>
    rw [cutLast] at h
    split at h
    · next p hp =>
      obtain ⟨rfl, rfl⟩ : d :: p.1 = a ∧ p.2 = b := by simpa using h
      obtain ⟨hs, hn⟩ := ih hp
      exact ⟨by rw [hs]; rfl, hn⟩
    · next hn =>
      split at h
      · next hd =>
        obtain ⟨rfl, rfl⟩ : a = [] ∧ b = r := by simpa [eq_comm] using h
        exact ⟨by simp [hd], cutLast_eq_none.1 hn⟩
      · simp at h

theorem cutLast_append {c : Char} (a : Text) {b : Text} (h : c ∉ b) :
    cutLast c (a ++ c :: b) = some (a, b) := by
  induction a with
  | nil => simp [cutLast, cutLast_eq_none.2 h]
  | cons d r ih => simp [cutLast, ih]

end Text

end Unmask
