import Unmask.Proofs.Mapping.Reports
import Unmask.Proofs.Text.Pieces

/-!
Mapping files without the class lines that were reported as duplicates and without their members.
-/

namespace Unmask.Mapping

def isClassLine (ls : Lines) (i : Nat) : Bool :=
  (lineAt? ls i).any fun l => !l.indented && l.classNames.toOption.isSome

def isMemberLine (ls : Lines) (i : Nat) : Bool := (lineAt? ls i).any fun l => l.indented

/-- The last class line above line `i`. -/
def classAbove? (ls : Lines) : Nat → Option Nat
  | 0 => none
  | i + 1 => if isClassLine ls i then some i else classAbove? ls i

/-- The numbers of the class lines that are reported as duplicates. -/
def duplicateNumbers (ds : List Diagnostic) : List Nat :=
  ds.filterMap fun
    | .duplicateClass n _ => some n
    | _ => none

/-- Line `i` is one of the numbered ones, or a member of one of them. -/
def isSkipped (ls : Lines) (numbers : List Nat) (i : Nat) : Bool :=
  numbers.contains (i + 1) ||
    (isMemberLine ls i && (classAbove? ls i).any fun k => numbers.contains (k + 1))

/-- The file without its reported duplicates and their members. -/
def withoutDuplicates (packages : Bool) (bytes : List UInt8) : List UInt8 :=
  Text.removeLines (isSkipped (fileLines bytes)
    (duplicateNumbers (reports (read packages (.bytes bytes)).1))) bytes

/-- Line `i` is a duplicate, or a member of one. -/
def SkippedAt (ls : Lines) (i : Nat) : Prop :=
  Duplicate ls i ∨
    (∃ l, lineAt? ls i = some l ∧ l.indented = true) ∧ ∃ k, InBlock ls k i ∧ Duplicate ls k

variable {ls more : Lines} {x : Except ReadFault Text} {i k : Nat} {o b : Text}

lemma isClassLine_iff : isClassLine ls i = true ↔ ∃ o b, ClassAt ls i o b := by
  unfold isClassLine ClassAt
  rcases hl : lineAt? ls i with _ | l
  · simp
  · obtain ⟨text, rfl⟩ := eq_ofText_of_lineAt? hl
    simp only [Option.some.injEq, exists_eq_left', ← Line.classNames_eq_ok_iff]
    rcases hn : (Line.ofText (i + 1) text).classNames with f | ⟨o, b⟩
    · simp [Except.toOption, hn]
    · simp [Except.toOption, hn]

lemma isMemberLine_iff :
    isMemberLine ls i = true ↔ ∃ l, lineAt? ls i = some l ∧ l.indented = true := by
  unfold isMemberLine
  rcases lineAt? ls i with _ | l
  · simp
  · simp

lemma classAbove?_eq_some_iff : classAbove? ls i = some k ↔
    (∃ o b, ClassAt ls k o b) ∧ k < i ∧ ∀ j, k < j → j < i → ∀ o b, ¬ClassAt ls j o b := by
  induction i with
  | zero => simp [classAbove?]
  | succ i ih =>
    rw [classAbove?]
    split
    · next hc =>
      obtain ⟨o, b, hc⟩ := isClassLine_iff.1 hc
      refine ⟨fun h => ?_, fun ⟨_, hk, hn⟩ => ?_⟩
      · cases h
        exact ⟨⟨o, b, hc⟩, Nat.lt_succ_self _, fun j hj hj' => absurd hj' (by omega)⟩
      · rcases Nat.lt_or_ge k i with hlt | hge
        · exact absurd hc (hn i hlt (Nat.lt_succ_self i) o b)
        · rw [show k = i by omega]
    · next hc =>
      rw [isClassLine_iff] at hc
      rw [ih]
      refine ⟨fun ⟨h, hk, hn⟩ => ⟨h, by omega, fun j hj hj' o b hj'' => ?_⟩,
        fun ⟨h, hk, hn⟩ => ⟨h, ?_, fun j hj hj' => hn j hj (by omega)⟩⟩
      · rcases Nat.lt_or_ge j i with hlt | hge
        · exact hn j hj hlt o b hj''
        · obtain rfl : j = i := by omega
          exact hc ⟨o, b, hj''⟩
      · have hne : k ≠ i := fun he => hc (he ▸ h)
        omega

/-- A line that is no class line has the class line of its block above it. -/
lemma classAbove?_eq_some_iff_inBlock (hc : ∀ o b, ¬ClassAt ls i o b) :
    classAbove? ls i = some k ↔ InBlock ls k i := by
  rw [classAbove?_eq_some_iff]
  refine ⟨fun ⟨h, hk, hn⟩ => ⟨h, hk, fun j hj hj' => ?_⟩,
    fun ⟨h, hk, hn⟩ => ⟨h, hk, fun j hj hj' => hn j hj hj'.le⟩⟩
  rcases hj'.lt_or_eq with hlt | rfl
  · exact hn j hj hlt
  · exact hc

lemma mem_duplicateNumbers {ds : List Diagnostic} (h : Reported ls ds) :
    i + 1 ∈ duplicateNumbers ds ↔ Duplicate ls i := by
  rw [duplicateNumbers, List.mem_filterMap]
  constructor
  · rintro ⟨d, hd, hn⟩
    obtain ⟨j, l, -, ⟨-, -, rfl⟩ | ⟨hdup, rfl⟩⟩ := h.mem_iff.1 hd
    · cases hn
    · cases hn
      exact hdup
  · intro hdup
    have ⟨o, b, ⟨l, hl, _⟩, _⟩ := hdup
    exact ⟨.duplicateClass (i + 1) l.content, h.mem_iff.2 ⟨i, l, hl, Or.inr ⟨hdup, rfl⟩⟩, rfl⟩

lemma isSkipped_iff {numbers : List Nat} (hn : ∀ i, i + 1 ∈ numbers ↔ Duplicate ls i) :
    isSkipped ls numbers i = true ↔ SkippedAt ls i := by
  unfold isSkipped SkippedAt
  rw [Bool.or_eq_true, Bool.and_eq_true, List.contains_iff_mem, hn, isMemberLine_iff]
  refine or_congr_right (and_congr_right fun ⟨l, hl, hi⟩ => ?_)
  have hc (o b) : ¬ClassAt ls i o b := by
    rintro ⟨l', hl', hm, -⟩
    obtain rfl : l = l' := Option.some.inj (hl.symm.trans hl')
    rw [hi] at hm
    cases hm
  rw [Option.any_eq_true]
  refine exists_congr fun k => ?_
  rw [classAbove?_eq_some_iff_inBlock hc, List.contains_iff_mem, hn]

lemma skippedAt_append (h : i < ls.length) : SkippedAt (ls ++ more) i ↔ SkippedAt ls i := by
  unfold SkippedAt
  rw [duplicate_append h, lineAt?_append h]
  refine or_congr_right (and_congr_right fun _ => exists_congr fun k => ?_)
  rw [inBlock_append h]
  refine and_congr_right fun ⟨_, hk, _⟩ => ?_
  rw [duplicate_append (by omega)]

/-! ### The line that comes last -/

lemma not_skippedAt_concat_of_ignored {text : Text}
    (hi : (Line.ofText (ls.length + 1) text).isIgnored = true) :
    ¬SkippedAt (ls ++ [.ok text]) ls.length := by
  rintro (⟨o, b, hc, -⟩ | ⟨⟨l, hl, -⟩, -⟩)
  · exact not_classAt_concat_of_ignored hi hc
  · rw [lineAt?_concat_ignored hi] at hl
    cases hl

/-- An indented line is skipped just if the last class line is a duplicate. -/
lemma skippedAt_concat_of_indented {text : Text}
    (hi : (Line.ofText (ls.length + 1) text).isIgnored = false)
    (hd : (Line.ofText (ls.length + 1) text).indented = true) :
    SkippedAt (ls ++ [.ok text]) ls.length ↔ ∃ k, LastClass ls k ∧ Duplicate ls k := by
  have hc (o b) := not_classAt_concat_of_indented (o := o) (b := b) hi hd
  have hdup {k} (hk : LastClass ls k) : Duplicate (ls ++ [.ok text]) k ↔ Duplicate ls k := by
    obtain ⟨⟨o, b, h⟩, -⟩ := hk
    exact duplicate_append h.lt
  refine ⟨?_, fun ⟨k, hk, h⟩ => ?_⟩
  · rintro (⟨o, b, h, -⟩ | ⟨-, k, hb, h⟩)
    · exact absurd h (hc o b)
    · have hk := (inBlock_concat hc).1 hb
      exact ⟨k, hk, (hdup hk).1 h⟩
  · exact Or.inr ⟨⟨_, lineAt?_concat hi, hd⟩, k, (inBlock_concat hc).2 hk, (hdup hk).2 h⟩

lemma skippedAt_concat_of_classAt (hc : ClassAt (ls ++ [x]) ls.length o b) :
    SkippedAt (ls ++ [x]) ls.length ↔ Duplicate (ls ++ [x]) ls.length := by
  refine ⟨fun h => h.resolve_right ?_, Or.inl⟩
  rintro ⟨-, k, ⟨-, hk, hn⟩, -⟩
  exact hn _ hk le_rfl o b hc

end Unmask.Mapping
