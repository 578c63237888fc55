import Mathlib.Data.Nat.Nth
import Unmask.Proofs.Mapping.Renumber
import Unmask.Proofs.Mapping.Trailing

/-!
The presentation of a mapping file: a byte order mark, how its lines end, and the comments and
blank lines in between. All of it can be changed, and what is read stays the same but for the
numbers of lines.
-/

namespace Unmask.Mapping

/-- A line of white space, or a comment. -/
def IgnoredLine (line : List UInt8) : Prop :=
  ∃ text, Text.Utf8.encode text = line ∧
    (Text.trim text = [] ∨ (Text.trim text).head? = some '#')

/-- The longer file is the shorter one with comments and blank lines put in below its first line.
In the longer file they have the positions `drop`. -/
structure Interspersed (drop : Nat → Bool) (longer shorter : List UInt8) : Prop where
  first : drop 0 = false
  lines : Text.lines shorter = keep drop (Text.lines longer)
  ignored : ∀ i line, (Text.lines longer)[i]? = some line → drop i = true → IgnoredLine line

/-- The number in the longer file of a line of the shorter one. -/
noncomputable def shifted (drop : Nat → Bool) (n : Nat) : Nat :=
  Nat.nth (fun i => drop i = false) (n - 1) + 1

variable {drop : Nat → Bool} {bytes bytes' : List UInt8} {ls : Lines} {f : Nat → Nat}

/-! ### Lines put in -/

/-- Line `n` is kept and becomes line `m`, and from there on `f` gives the new numbers. -/
def Shifts (drop : Nat → Bool) (f : Nat → Nat) (n m : Nat) : Prop :=
  ∀ i, drop i = false → f (m + Nat.count (fun i => drop i = false) i) = n + i

lemma shifts_shifted (drop : Nat → Bool) : Shifts drop (shifted drop) 1 1 := by
  intro i hi
  rw [shifted, Nat.add_sub_cancel_left, Nat.nth_count hi, Nat.add_comm]

lemma Shifts.dropped {n m : Nat} (h : Shifts drop f n m) (hd : drop 0 = true) :
    Shifts (fun i => drop (i + 1)) f (n + 1) m := by
  intro i hi
  have hnext := h (i + 1) hi
  rw [Nat.count_succ'] at hnext
  simp only [hd, Bool.true_eq_false, if_false, Nat.add_zero] at hnext
  rw [hnext]
  omega

lemma Shifts.kept {n m : Nat} (h : Shifts drop f n m) (hd : drop 0 = false) :
    f m = n ∧ Shifts (fun i => drop (i + 1)) f (n + 1) (m + 1) := by
  refine ⟨by simpa using h 0 hd, fun i hi => ?_⟩
  have hnext := h (i + 1) hi
  rw [Nat.count_succ'] at hnext
  simp only [hd, if_true] at hnext
  rw [Nat.add_right_comm, Nat.add_assoc, hnext]
  omega

/-- The reader goes over the lines put in, whatever class line stands above. -/
theorem entriesFrom_keep (n m : Nat) (above : Option Nat) (hf : Shifts drop f n m)
    (hdrop : ∀ i x, ls[i]? = some x → drop i = true → ∀ n above, entryAt n above x = .ok none) :
    entriesFrom n (above.map f) ls =
      ((entriesFrom m above (keep drop ls)).1.map (Entry.renumber f),
        (entriesFrom m above (keep drop ls)).2.map (LoadError.renumber f)) := by
  induction ls generalizing drop n m above with
  | nil => rfl
  | cons x ls ih =>
    have hrest : ∀ i y, ls[i]? = some y → drop (i + 1) = true →
        ∀ n above, entryAt n above y = .ok none :=
      fun i y hy => hdrop (i + 1) y (by simpa using hy)
    rw [entriesFrom_cons, keep_cons]
    rcases hd : drop 0 with _ | _
    · obtain ⟨rfl, hf⟩ := hf.kept hd
      rw [if_neg Bool.false_ne_true, List.singleton_append, entriesFrom_cons, entryAt_renumber]
      rcases entryAt m above x with e | entry
      · rfl
      · show (Option.toList _ ++ (entriesFrom _ (Entry.above _ _) ls).1,
          (entriesFrom _ (Entry.above _ _) ls).2) = _
        rw [above_renumber, ih _ _ _ hf hrest, Option.toList_map, List.map_append]
    · have hx : entryAt n (above.map f) x = .ok none := hdrop 0 x rfl hd _ _
      rw [hx, if_pos rfl, List.nil_append]
      exact ih _ _ _ (hf.dropped hd) hrest

/-- Taking out what was put in. -/
lemma interspersed_removeLines (hd : drop 0 = false)
    (hi : ∀ i line, (Text.lines bytes)[i]? = some line → drop i = true → IgnoredLine line) :
    Interspersed drop bytes (Text.removeLines drop bytes) :=
  ⟨hd, Text.lines_removeLines drop bytes, hi⟩

lemma getElem?_dropMarks_succ (ls : Lines) (i : Nat) :
    (dropMarks ls)[i + 1]? = ls[i + 1]? := by
  rcases ls with _ | ⟨f | text, ls⟩ <;> rfl

lemma IgnoredLine.entryAt_eq {line : List UInt8} (h : IgnoredLine line) (n : Nat)
    (above : Option Nat) : entryAt n above (Source.readLine line) = .ok none := by
  obtain ⟨text, hline, hcontent⟩ := h
  have hignored : (Line.ofText n text).isIgnored = true := by
    rcases hcontent with hempty | hcomment
    · simp [Line.isIgnored, hempty]
    · simp [Line.isIgnored, hcomment]
  rw [Source.readLine, Text.Utf8.decode_eq_some_iff.2 hline]
  exact entryAt_of_ignored hignored

lemma Interspersed.entryAt_eq (h : Interspersed drop bytes bytes') (i : Nat)
    (x : Except ReadFault Text) (hx : (fileLines bytes)[i]? = some x) (hd : drop i = true)
    (n : Nat) (above : Option Nat) : entryAt n above x = .ok none := by
  rcases i with _ | i
  · exact absurd (h.first.symm.trans hd) Bool.false_ne_true
  · rw [fileLines_eq, getElem?_dropMarks_succ, List.getElem?_map] at hx
    obtain ⟨line, hline, rfl⟩ := Option.map_eq_some_iff.1 hx
    exact (h.ignored (i + 1) line hline hd).entryAt_eq n above

theorem Interspersed.read_eq (h : Interspersed drop bytes bytes') (packages : Bool) :
    read packages (.bytes bytes) =
      ((read packages (.bytes bytes')).1.map (Event.renumber (shifted drop)),
        (read packages (.bytes bytes')).2.mapError (LoadError.renumber (shifted drop))) := by
  refine read_renumber _ ?_ packages
  rw [entries_bytes, entries_bytes, fileLines_eq_keep h.first h.lines]
  exact entriesFrom_keep 1 1 none (shifts_shifted drop) h.entryAt_eq

/-- **The presentation does not matter.** A file is read alike with a byte order mark in front,
with a carriage return in front of every line feed, and with blanks at the ends of any lines. With
comments and blank lines put in below its first line, inside a class too, it gives the same table
or the same fault, and all that happens on the way is the same, but for the numbers of the lines,
which are those of the longer file. -/
theorem read_presentation (packages : Bool) (bytes : List UInt8) :
    read packages (.bytes (Text.mark ++ bytes)) = read packages (.bytes bytes) ∧
    read packages (.bytes (Text.withReturns bytes)) = read packages (.bytes bytes) ∧
    (∀ padded, Text.Padded bytes padded →
      read packages (.bytes padded) = read packages (.bytes bytes)) ∧
    ∀ drop longer, Interspersed drop longer bytes →
      read packages (.bytes longer) =
        ((read packages (.bytes bytes)).1.map (Event.renumber (shifted drop)),
          (read packages (.bytes bytes)).2.mapError (LoadError.renumber (shifted drop))) := by
  refine ⟨read_mark_append bytes packages, ?_, fun padded h => read_padded h packages,
    fun drop longer h => h.read_eq packages⟩
  exact read_padded (Text.padded_withReturns bytes) packages

def headLine : List UInt8 := Text.Utf8.encode "A -> a:".toList

/-- Two members, the second without an arrow. -/
def memberLines : List UInt8 := Text.Utf8.encode "  f() -> x\n  g()\n".toList

def plainFile : List UInt8 := headLine ++ 0x0a :: memberLines

/-- The same with a space and a tab behind the class line. -/
def paddedFile : List UInt8 := headLine ++ ([0x20, 0x09] ++ 0x0a :: memberLines)

/-- The same with a comment and a blank line among the members. -/
def commentedFile : List UInt8 :=
  Text.Utf8.encode "A -> a:\n# f\n  f() -> x\n\n  g()\n".toList

lemma padded_plainFile : Text.Padded plainFile paddedFile := by
  have hpad : ∀ b ∈ [(0x20 : UInt8), 0x09], Text.IsPad b := by simp [Text.IsPad]
  have hline := Text.Padded.lineFeed hpad (Text.padded_refl memberLines)
  exact hline.append_left headLine

lemma interspersed_commentedFile :
    Interspersed (fun i => i = 1 ∨ i = 3) commentedFile plainFile := by
  have hplain : plainFile = Text.removeLines (fun i => i = 1 ∨ i = 3) commentedFile := by decide
  rw [hplain]
  refine interspersed_removeLines (by decide) fun i line hline hi => ?_
  rcases of_decide_eq_true hi with rfl | rfl
  · obtain rfl : Text.Utf8.encode "# f".toList = line := Option.some.inj hline
    exact ⟨_, rfl, Or.inr (by decide)⟩
  · obtain rfl : [] = line := Option.some.inj hline
    exact ⟨[], rfl, Or.inl rfl⟩

theorem read_commentedFile_presentation :
    read true (.bytes paddedFile) = read true (.bytes plainFile) ∧
    (read true (.bytes plainFile)).2 =
      .error ⟨3, some 1, .malformed (.noArrow 3 "g()".toList)⟩ ∧
    (read true (.bytes commentedFile)).2 =
      .error ⟨5, some 1, .malformed (.noArrow 5 "g()".toList)⟩ ∧
    shifted (fun i => i = 1 ∨ i = 3) 1 = 1 ∧ shifted (fun i => i = 1 ∨ i = 3) 3 = 5 := by
  obtain ⟨-, -, hpadded, hlonger⟩ := read_presentation true plainFile
  have hplain : (read true (.bytes plainFile)).2 =
      .error ⟨3, some 1, .malformed (.noArrow 3 "g()".toList)⟩ := by decide
  have hfirst : shifted (fun i => i = 1 ∨ i = 3) 1 = 1 := shifts_shifted _ 0 (by decide)
  have hthird : shifted (fun i => i = 1 ∨ i = 3) 3 = 5 := shifts_shifted _ 4 (by decide)
  have hread := congrArg Prod.snd (hlonger _ _ interspersed_commentedFile)
  refine ⟨hpadded _ padded_plainFile, hplain, hread.trans ?_, hfirst, hthird⟩
  rw [hplain]
  simp only [Except.mapError, LoadError.renumber, LoadCause.renumber, LineFault.renumber,
    Option.map_some, hfirst, hthird]

end Unmask.Mapping
