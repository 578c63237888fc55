import Unmask.Proofs.Mapping.Reports
import Unmask.Proofs.Text.Utf8

/-!
Which mapping files give no table, and what is told of their first fault. What stands below it is
not looked at.
-/

namespace Unmask.Mapping

/-- Line `i` cannot be read. -/
def UnreadableAt (ls : Lines) (i : Nat) : Prop := ∃ f, ls[i]? = some (.error f)

/-- Line `i` stands at the margin and is no class line. -/
def BadClassAt (ls : Lines) (i : Nat) : Prop :=
  ∃ l, lineAt? ls i = some l ∧ l.indented = false ∧ l.BadClass

/-- Line `i` is indented, stands below a class line, and is no member. -/
def BadMemberAt (ls : Lines) (i : Nat) : Prop :=
  (∃ l, lineAt? ls i = some l ∧ l.indented = true ∧ l.BadMember) ∧
    ∃ k < i, ∃ o b, ClassAt ls k o b

def FaultAt (ls : Lines) (i : Nat) : Prop :=
  UnreadableAt ls i ∨ BadClassAt ls i ∨ BadMemberAt ls i

structure FirstFault (ls : Lines) (i : Nat) : Prop where
  fault : FaultAt ls i
  first : ∀ j < i, ¬FaultAt ls j

def inLine (i : Nat) : Text := "in line ".toList ++ Text.decimal (i + 1)

def failedToRead (i : Nat) : Text := "failed to read line ".toList ++ Text.decimal (i + 1)

/-- What is told of a fault in line `i`. The class line above is named too, unless the fault is in
a line at the margin. -/
inductive Told (ls : Lines) (i : Nat) : List Text → Prop
  | unreadable {f} (here : ls[i]? = some (.error f)) (top : ∀ k < i, ∀ o b, ¬ClassAt ls k o b) :
    Told ls i ["reading lines".toList, failedToRead i, f.message]
  | unreadableBelow {f k} (here : ls[i]? = some (.error f)) (block : InBlock ls k i) :
    Told ls i ["reading lines".toList, inLine k, "reading class members".toList, failedToRead i,
      f.message]
  | badClass {l f} (here : lineAt? ls i = some l) (margin : l.indented = false)
    (bad : l.BadClass) (fault : l.classNames = .error f) :
    Told ls i ["reading lines".toList, inLine i, f.message]
  | badMember {l k} (here : lineAt? ls i = some l) (indented : l.indented = true)
    (bad : l.BadMember) (block : InBlock ls k i) :
    Told ls i ["reading lines".toList, inLine k, "reading class members".toList, inLine i,
      (LineFault.noArrow (i + 1) l.content).message]

variable {ls more : Lines} {x : Except ReadFault Text} {i : Nat} {es : List Entry}
  {above : Option Nat}

/-! ### Faults and the lines below -/

lemma faultAt_append (h : i < ls.length) : FaultAt (ls ++ more) i ↔ FaultAt ls i := by
  unfold FaultAt UnreadableAt BadClassAt BadMemberAt
  rw [List.getElem?_append_left h, lineAt?_append h]
  refine or_congr_right (or_congr_right (and_congr_right fun _ => ?_))
  refine exists_congr fun k => and_congr_right fun hk => ?_
  simp only [classAt_append (show k < ls.length by omega)]

lemma FaultAt.lt (h : FaultAt ls i) : i < ls.length := by
  rcases h with ⟨f, h⟩ | ⟨l, h, -⟩ | ⟨⟨l, h, -⟩, -⟩
  · exact (List.getElem?_eq_some_iff.1 h).1
  · exact lt_of_lineAt? h
  · exact lt_of_lineAt? h

lemma Told.append {chain : List Text} (h : Told ls i chain) (hi : i < ls.length) :
    Told (ls ++ more) i chain := by
  have hx : (ls ++ more)[i]? = ls[i]? := List.getElem?_append_left hi
  cases h with
  | unreadable here top =>
    refine .unreadable (hx.trans here) fun k hk o b h => ?_
    exact top k hk o b ((classAt_append (by omega)).1 h)
  | unreadableBelow here block =>
    exact .unreadableBelow (hx.trans here) ((inBlock_append hi).2 block)
  | badClass here margin bad fault =>
    exact .badClass ((lineAt?_append hi).trans here) margin bad fault
  | badMember here indented bad block =>
    exact .badMember ((lineAt?_append hi).trans here) indented bad ((inBlock_append hi).2 block)

/-! ### Faults in the line that comes last -/

lemma not_classAt_concat_of_error {f : ReadFault} {o b : Text} :
    ¬ClassAt (ls ++ [.error f]) ls.length o b := by
  rintro ⟨l, hl, -⟩
  rw [lineAt?, List.getElem?_concat_length] at hl
  cases hl

/-- The faults of a line that was read. -/
lemma faultAt_concat_iff {text : Text} : FaultAt (ls ++ [.ok text]) ls.length ↔
    (Line.ofText (ls.length + 1) text).isIgnored = false ∧
      ((Line.ofText (ls.length + 1) text).indented = false ∧
          (Line.ofText (ls.length + 1) text).BadClass ∨
        ((Line.ofText (ls.length + 1) text).indented = true ∧
          (Line.ofText (ls.length + 1) text).BadMember) ∧ ∃ k < ls.length, ∃ o b, ClassAt ls k o b)
      := by
  have hread : ¬UnreadableAt (ls ++ [.ok text]) ls.length := by
    rintro ⟨f, hf⟩
    rw [List.getElem?_concat_length] at hf
    cases hf
  have hclass : (∃ k < ls.length, ∃ o b, ClassAt (ls ++ [.ok text]) k o b) ↔
      ∃ k < ls.length, ∃ o b, ClassAt ls k o b :=
    exists_congr fun k => and_congr_right fun hk => by simp only [classAt_append hk]
  unfold FaultAt BadClassAt BadMemberAt
  rw [or_iff_right hread, hclass]
  rcases hi : (Line.ofText (ls.length + 1) text).isIgnored with _ | _
  · simp only [lineAt?_concat hi, Option.some.injEq, exists_eq_left', true_and]
  · simp [lineAt?_concat_ignored hi]

/-- A line that can be used has no fault. -/
lemma Part.not_faultAt {entry : Option Entry} (hr : Reads ls es above)
    (h : Part (ls.length + 1) above x (.ok entry)) : ¬FaultAt (ls ++ [x]) ls.length := by
  cases h with
  | ignored hi =>
    rw [faultAt_concat_iff, hi]
    exact fun h => absurd h.1 (by simp)
  | orphan hi hd ht =>
    rw [faultAt_concat_iff, hd]
    rintro ⟨-, ⟨h, -⟩ | ⟨-, k, -, o, b, hc⟩⟩
    · cases h
    · exact hr.lastClass.1 ht k o b hc
  | member hi hd hb hs =>
    rw [faultAt_concat_iff, hd]
    rintro ⟨-, ⟨h, -⟩ | ⟨⟨-, hbad⟩, -⟩⟩
    · cases h
    · obtain ⟨left, right, hc, -⟩ := hs
      exact Line.not_cut hbad hc
  | classLine hi hd hs =>
    rw [faultAt_concat_iff, hd]
    rintro ⟨-, ⟨-, hbad⟩ | ⟨⟨h, -⟩, -⟩⟩
    · exact (Line.exists_saysClass_iff _).1 ⟨_, _, hs⟩ hbad
    · cases h

/-- A line that cannot be used has a fault, and that is what is told. -/
lemma Part.told {e : LoadError} (hr : Reads ls es above)
    (h : Part (ls.length + 1) above x (.error e)) :
    FaultAt (ls ++ [x]) ls.length ∧ Told (ls ++ [x]) ls.length e.chain := by
  cases h with
  | unreadable f =>
    have here : (ls ++ [Except.error f])[ls.length]? = some (.error f) :=
      List.getElem?_concat_length
    refine ⟨Or.inl ⟨f, here⟩, ?_⟩
    rcases above with _ | n
    · refine .unreadable here fun k hk o b hc => ?_
      exact hr.lastClass.1 rfl k o b ((classAt_append hk).1 hc)
    · obtain ⟨k, rfl, hl⟩ := hr.lastClass.2 n rfl
      exact .unreadableBelow here ((inBlock_concat fun _ _ => not_classAt_concat_of_error).2 hl)
  | @badMember text n hi hd hb hbad =>
    subst hb
    have here := lineAt?_concat hi
    obtain ⟨k, rfl, hl⟩ := hr.lastClass.2 n rfl
    have hblock := (inBlock_concat fun _ _ => not_classAt_concat_of_indented hi hd).2 hl
    obtain ⟨⟨o, b, hc⟩, -⟩ := hl
    rw [faultAt_concat_iff]
    exact ⟨⟨hi, Or.inr ⟨⟨hd, hbad⟩, k, hc.lt, o, b, hc⟩⟩, .badMember here hd hbad hblock⟩
  | badClass hi hd hf =>
    have hbad := Line.exists_classNames_eq_error_iff.1 ⟨_, hf⟩
    have here := lineAt?_concat hi
    rw [faultAt_concat_iff]
    exact ⟨⟨hi, Or.inl ⟨hd, hbad⟩⟩, .badClass here hd hbad hf⟩

lemma Reads.not_faultAt (h : Reads ls es above) : ¬FaultAt ls i := by
  induction h with
  | nil => exact fun hf => absurd hf.lt (by simp)
  | @snoc ls es above x entry before here ih =>
    intro hf
    rcases lt_concat_cases hf.lt with hi | rfl
    · exact ih ((faultAt_append hi).1 hf)
    · exact here.not_faultAt before hf

/-! ### The fault of a file -/

variable {bytes : List UInt8} {packages : Bool}

lemma getElem?_dropMarks_error {f : ReadFault} :
    (dropMarks ls)[i]? = some (.error f) ↔ ls[i]? = some (.error f) := by
  rcases ls with _ | ⟨f' | text, ls⟩
  · rfl
  · rfl
  · rcases i with _ | i
    · simp [dropMarks]
    · simp [dropMarks]

/-- A line of a file cannot be read just if it is not UTF-8. -/
lemma unreadableAt_fileLines_iff : UnreadableAt (fileLines bytes) i ↔
    ∃ line, (Text.lines bytes)[i]? = some line ∧ ∀ text, Text.Utf8.encode text ≠ line := by
  unfold UnreadableAt
  simp only [fileLines_eq, getElem?_dropMarks_error, List.getElem?_map, Option.map_eq_some_iff,
    ← not_exists, ← Text.Utf8.decode_eq_none_iff]
  refine ⟨fun ⟨f, line, hl, hr⟩ => ⟨line, hl, ?_⟩, fun ⟨line, hl, hd⟩ => ⟨.notUtf8, line, hl, ?_⟩⟩
  · rcases hd : Text.Utf8.decode line with _ | text
    · rfl
    · rw [Source.readLine, hd] at hr
      cases hr
  · rw [Source.readLine, hd]

/-- **The fault of a file.** Reading fails just if a line has a fault, one that is not UTF-8
included. What is told is told of the first such line, and all reports are made of the lines above
it. Neither depends on what stands below, nor on whether packages are derived. -/
theorem read_fails_at_first_fault (packages : Bool) (bytes : List UInt8) :
    ((∃ e, (read packages (.bytes bytes)).2 = .error e) ↔ ∃ i, FaultAt (fileLines bytes) i) ∧
      (∀ i, UnreadableAt (fileLines bytes) i ↔
        ∃ line, (Text.lines bytes)[i]? = some line ∧ ∀ text, Text.Utf8.encode text ≠ line) ∧
      ∀ e, (read packages (.bytes bytes)).2 = .error e → ∃ i, FirstFault (fileLines bytes) i ∧
        Told (fileLines bytes) i e.chain ∧
        Reported ((fileLines bytes).take i) (reports (read packages (.bytes bytes)).1) ∧
        ∀ packages' bytes',
          (fileLines bytes').take (i + 1) = (fileLines bytes).take (i + 1) →
            (read packages' (.bytes bytes')).2 = .error e ∧
              reports (read packages' (.bytes bytes')).1 =
                reports (read packages (.bytes bytes)).1 := by
  refine and_left_comm.1 ⟨fun i => unreadableAt_fileLines_iff, ?_⟩
  rcases reads_or_stops (fileLines bytes) with
    ⟨es, above, hr⟩ | ⟨before, x, more, es, above, e, hls, hr, hx⟩
  · rw [hr.read_eq]
    exact ⟨⟨fun ⟨e, he⟩ => (by cases he), fun ⟨i, hf⟩ => absurd hf hr.not_faultAt⟩,
      fun e he => (by cases he)⟩
  · obtain ⟨hf, ht⟩ := hx.told hr
    have hlen : before.length < (before ++ [x]).length := by simp
    have hsplit : fileLines bytes = (before ++ [x]) ++ more := by simp [hls]
    have hread := hr.read_stop hx hls packages
    have hfault : FaultAt (fileLines bytes) before.length :=
      hsplit ▸ (faultAt_append hlen).2 hf
    rw [hread]
    refine ⟨⟨fun _ => ⟨_, hfault⟩, fun _ => ⟨e, rfl⟩⟩, fun e' he' => ?_⟩
    cases he'
    refine ⟨before.length, ⟨hfault, fun j hj h => ?_⟩, hsplit ▸ ht.append hlen, ?_, ?_⟩
    · rw [hls, faultAt_append hj] at h
      exact hr.not_faultAt h
    · rw [hls, List.take_left]
      exact hr.reported packages
    · intro packages' bytes' htake
      -- the other file starts with the same lines
      have hsame : fileLines bytes' =
          before ++ x :: (fileLines bytes').drop (before.length + 1) := by
        conv_lhs => rw [← List.take_append_drop (before.length + 1) (fileLines bytes'), htake]
        rw [hls, List.take_length_add_append]
        simp
      rw [hr.read_stop hx hsame packages']
      exact ⟨rfl, Progress.reports_run_congr rfl packages' packages es⟩

example : (read false (.bytes (Text.Utf8.encode "A -> a:\n  f() -> x\n  g()\n".toList))).2 =
    .error ⟨3, some 1, .malformed (.noArrow 3 "g()".toList)⟩ := by decide

end Unmask.Mapping
