import Unmask.Name
import Unmask.Proofs.Mapping.Answers
import Unmask.Proofs.Mapping.Line
import Unmask.Proofs.Text.Pieces

/-!
A mapping file as a list of lines, counted from 0, and the parts that the lines play in it. What a
line is depends on nothing that comes after it.
-/

namespace Unmask.Mapping

abbrev Lines := List (Except ReadFault Text)

/-- The lines of a file, the first without byte order marks. -/
def fileLines (bytes : List UInt8) : Lines := dropMarks (Source.bytes bytes).lines

/-- The line at `i`, if it was read and is neither blank nor a comment. -/
def lineAt? (ls : Lines) (i : Nat) : Option Line :=
  match ls[i]? with
  | some (.ok text) =>
    if (Line.ofText (i + 1) text).isIgnored then none else some (Line.ofText (i + 1) text)
  | _ => none

/-- Line `i` is the class line `real -> obfuscated:`. -/
def ClassAt (ls : Lines) (i : Nat) (real obfuscated : Text) : Prop :=
  ∃ l, lineAt? ls i = some l ∧ l.indented = false ∧ l.SaysClass real obfuscated

/-- Line `i` is indented and reads `declaration -> obfuscated`. -/
def MemberAt (ls : Lines) (i : Nat) (declaration obfuscated : Text) : Prop :=
  ∃ l, lineAt? ls i = some l ∧ l.indented = true ∧ l.SaysMember declaration obfuscated

/-- No class line stands between `i` and `j`, nor at `j`. -/
def NoClassTo (ls : Lines) (i j : Nat) : Prop := ∀ k, i < k → k ≤ j → ∀ o b, ¬ClassAt ls k o b

/-- Line `j` stands in the block of the class line `i`. -/
def InBlock (ls : Lines) (i j : Nat) : Prop :=
  (∃ o b, ClassAt ls i o b) ∧ i < j ∧ NoClassTo ls i j

/-- Line `i` is the last class line. -/
def LastClass (ls : Lines) (i : Nat) : Prop :=
  (∃ o b, ClassAt ls i o b) ∧ ∀ k, i < k → ∀ o b, ¬ClassAt ls k o b

/-- Line `i` is a class line, and an earlier class line has the same obfuscated name. -/
def Duplicate (ls : Lines) (i : Nat) : Prop :=
  ∃ o b, ClassAt ls i o b ∧
    ∃ k < i, ∃ o' b', ClassAt ls k o' b' ∧ Name.internal b' = Name.internal b

variable {ls more : Lines} {i j n : Nat} {text o b d m : Text}

lemma fileLines_eq (bytes : List UInt8) :
    fileLines bytes = dropMarks ((Text.lines bytes).map Source.readLine) := rfl

/-- If the first line is kept, the byte order marks stay at the start. -/
lemma fileLines_eq_keep {drop : Nat → Bool} {bytes bytes' : List UInt8} (h : drop 0 = false)
    (hl : Text.lines bytes' = keep drop (Text.lines bytes)) :
    fileLines bytes' = keep drop (fileLines bytes) := by
  rw [fileLines_eq, fileLines_eq, hl, ← keep_map]
  rcases (Text.lines bytes).map Source.readLine with _ | ⟨f | text, ls⟩
  · rfl
  · simp only [dropMarks, keep_cons, h]
    rfl
  · simp only [dropMarks, keep_cons, h]
    rfl

lemma lineAt?_append (h : i < ls.length) : lineAt? (ls ++ more) i = lineAt? ls i := by
  unfold lineAt?
  rw [List.getElem?_append_left h]

lemma lineAt?_of_le (h : ls.length ≤ i) : lineAt? ls i = none := by
  unfold lineAt?
  rw [List.getElem?_eq_none h]

lemma lineAt?_of_getElem? (h : ls[i]? = some (.ok text))
    (hi : (Line.ofText (i + 1) text).isIgnored = false) :
    lineAt? ls i = some (Line.ofText (i + 1) text) := by
  unfold lineAt?
  rw [h]
  simp [hi]

lemma lt_of_lineAt? {l : Line} (h : lineAt? ls i = some l) : i < ls.length := by
  by_contra hn
  rw [lineAt?_of_le (by omega)] at h
  cases h

lemma eq_ofText_of_lineAt? {l : Line} (h : lineAt? ls i = some l) :
    ∃ text, l = Line.ofText (i + 1) text := by
  unfold lineAt? at h
  split at h
  · next text _ =>
    split at h
    · cases h
    · exact ⟨text, (Option.some.inj h).symm⟩
  · cases h

lemma classAt_append (h : i < ls.length) : ClassAt (ls ++ more) i o b ↔ ClassAt ls i o b := by
  unfold ClassAt
  rw [lineAt?_append h]

lemma ClassAt.lt (h : ClassAt ls i o b) : i < ls.length := by
  obtain ⟨l, hl, -⟩ := h
  exact lt_of_lineAt? hl

lemma ClassAt.append (h : ClassAt ls i o b) : ClassAt (ls ++ more) i o b :=
  (classAt_append h.lt).2 h

lemma memberAt_append (h : i < ls.length) : MemberAt (ls ++ more) i d m ↔ MemberAt ls i d m := by
  unfold MemberAt
  rw [lineAt?_append h]

lemma MemberAt.lt (h : MemberAt ls i d m) : i < ls.length := by
  obtain ⟨l, hl, -⟩ := h
  exact lt_of_lineAt? hl

lemma noClassTo_append (h : j < ls.length) :
    NoClassTo (ls ++ more) i j ↔ NoClassTo ls i j := by
  unfold NoClassTo
  refine forall_congr' fun k => forall_congr' fun _ => forall_congr' fun hk => ?_
  simp only [classAt_append (show k < ls.length by omega)]

lemma inBlock_append (h : j < ls.length) : InBlock (ls ++ more) i j ↔ InBlock ls i j := by
  unfold InBlock
  rw [noClassTo_append h]
  refine and_congr_left fun ⟨hij, _⟩ => ?_
  simp only [classAt_append (show i < ls.length by omega)]

lemma duplicate_append (h : i < ls.length) : Duplicate (ls ++ more) i ↔ Duplicate ls i := by
  unfold Duplicate
  simp only [classAt_append h]
  refine exists_congr fun o => exists_congr fun b => and_congr_right fun _ => ?_
  refine exists_congr fun k => and_congr_right fun hk => ?_
  simp only [classAt_append (show k < ls.length by omega)]

lemma Duplicate.lt (h : Duplicate ls i) : i < ls.length := by
  obtain ⟨o, b, hc, -⟩ := h
  exact hc.lt

/-- A line plays one part only. -/
lemma ClassAt.unique {o' b' : Text} (h : ClassAt ls i o b) (h' : ClassAt ls i o' b') :
    o = o' ∧ b = b' := by
  obtain ⟨l, hl, -, left, right, hc, rfl, hb, -⟩ := h
  obtain ⟨l', hl', -, left', right', hc', rfl, hb', -⟩ := h'
  obtain rfl : l = l' := Option.some.inj (hl.symm.trans hl')
  obtain ⟨rfl, rfl⟩ := hc.unique hc'
  exact ⟨rfl, List.append_cancel_right (hb.symm.trans hb')⟩

lemma MemberAt.unique {d' m' : Text} (h : MemberAt ls i d m) (h' : MemberAt ls i d' m') :
    d = d' ∧ m = m' := by
  obtain ⟨l, hl, -, left, right, hc, rfl, rfl⟩ := h
  obtain ⟨l', hl', -, left', right', hc', rfl, rfl⟩ := h'
  obtain rfl : l = l' := Option.some.inj (hl.symm.trans hl')
  obtain ⟨rfl, rfl⟩ := hc.unique hc'
  exact ⟨rfl, rfl⟩

lemma MemberAt.not_classAt (h : MemberAt ls i d m) : ¬ClassAt ls i o b := by
  obtain ⟨l, hl, hi, -⟩ := h
  rintro ⟨l', hl', hi', -⟩
  obtain rfl : l = l' := Option.some.inj (hl.symm.trans hl')
  rw [hi] at hi'
  cases hi'

/-- A line stands in one block only. -/
lemma InBlock.unique {i' : Nat} (h : InBlock ls i j) (h' : InBlock ls i' j) : i = i' := by
  obtain ⟨⟨o, b, hc⟩, hij, hn⟩ := h
  obtain ⟨⟨o', b', hc'⟩, hij', hn'⟩ := h'
  rcases Nat.lt_trichotomy i i' with hlt | heq | hgt
  · exact absurd hc' (hn i' hlt hij'.le o' b')
  · exact heq
  · exact absurd hc (hn' i hgt hij.le o b)

lemma LastClass.unique {i' : Nat} (h : LastClass ls i) (h' : LastClass ls i') : i = i' := by
  obtain ⟨⟨o, b, hc⟩, hn⟩ := h
  obtain ⟨⟨o', b', hc'⟩, hn'⟩ := h'
  rcases Nat.lt_trichotomy i i' with hlt | heq | hgt
  · exact absurd hc' (hn i' hlt o' b')
  · exact heq
  · exact absurd hc (hn' i hgt o b)

/-! ### The line that comes last -/

variable {x : Except ReadFault Text}

lemma lineAt?_concat (hi : (Line.ofText (ls.length + 1) text).isIgnored = false) :
    lineAt? (ls ++ [.ok text]) ls.length = some (Line.ofText (ls.length + 1) text) :=
  lineAt?_of_getElem? List.getElem?_concat_length hi

lemma lineAt?_concat_ignored (hi : (Line.ofText (ls.length + 1) text).isIgnored = true) :
    lineAt? (ls ++ [.ok text]) ls.length = none := by
  unfold lineAt?
  rw [List.getElem?_concat_length]
  simp [hi]

lemma not_classAt_concat_of_indented
    (hi : (Line.ofText (ls.length + 1) text).isIgnored = false)
    (hd : (Line.ofText (ls.length + 1) text).indented = true) :
    ¬ClassAt (ls ++ [.ok text]) ls.length o b := by
  rintro ⟨l, hl, hn, -⟩
  rw [lineAt?_concat hi] at hl
  cases hl
  rw [hd] at hn
  cases hn

lemma not_classAt_concat_of_ignored
    (hi : (Line.ofText (ls.length + 1) text).isIgnored = true) :
    ¬ClassAt (ls ++ [.ok text]) ls.length o b := by
  rintro ⟨l, hl, -⟩
  rw [lineAt?_concat_ignored hi] at hl
  cases hl

lemma classAt_concat_cases (h : ClassAt (ls ++ [x]) i o b) :
    ClassAt ls i o b ∨ i = ls.length :=
  (lt_concat_cases h.lt).imp_left fun hi => (classAt_append hi).1 h

/-- A line that is no class line leaves the last class line where it is. -/
lemma lastClass_concat_of_not (hc : ∀ o b, ¬ClassAt (ls ++ [x]) ls.length o b) :
    LastClass (ls ++ [x]) i ↔ LastClass ls i := by
  refine ⟨fun ⟨⟨o, b, h⟩, hn⟩ => ⟨⟨o, b, ?_⟩, fun k hk o' b' h' => hn k hk o' b' h'.append⟩,
    fun ⟨⟨o, b, h⟩, hn⟩ => ⟨⟨o, b, h.append⟩, fun k hk o' b' h' => ?_⟩⟩
  · rcases classAt_concat_cases h with h | rfl
    · exact h
    · exact absurd h (hc o b)
  · rcases classAt_concat_cases h' with h' | rfl
    · exact hn k hk o' b' h'
    · exact hc o' b' h'

lemma lastClass_concat (h : ClassAt (ls ++ [x]) ls.length o b) :
    LastClass (ls ++ [x]) i ↔ i = ls.length := by
  refine ⟨fun ⟨⟨o', b', h'⟩, hn⟩ => ?_, ?_⟩
  · exact (lt_concat_cases h'.lt).resolve_left fun hi => hn _ hi o b h
  · rintro rfl
    refine ⟨⟨o, b, h⟩, fun k hk o' b' h' => ?_⟩
    have hlt := lt_concat_cases h'.lt
    omega

/-- A line that is no class line stands in the block of the last one. -/
lemma inBlock_concat (hc : ∀ o b, ¬ClassAt (ls ++ [x]) ls.length o b) :
    InBlock (ls ++ [x]) i ls.length ↔ LastClass ls i := by
  rw [← lastClass_concat_of_not hc]
  refine ⟨fun ⟨h, hlt, hn⟩ => ⟨h, fun k hk o b hk' => ?_⟩,
    fun ⟨⟨o, b, h⟩, hn⟩ => ⟨⟨o, b, h⟩, ?_, fun k hk _ => hn k hk⟩⟩
  · have hle := lt_concat_cases hk'.lt
    exact hn k hk (by omega) o b hk'
  · rcases classAt_concat_cases h with h' | rfl
    · exact h'.lt
    · exact absurd h (hc o b)

end Unmask.Mapping
