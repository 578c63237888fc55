import Unmask.Proofs.Mapping.Calls
import Unmask.Proofs.Mapping.Fault
import Unmask.Proofs.Mapping.Skipped

/-!
The account of a file. Whoever loads it is told of every line that was skipped, in the order of
the lines, and last of the fault if there is one. Every class line is a class of the table or was
reported as a duplicate.
-/

namespace Unmask.Mapping

open Name

/-- The positions of the class lines. -/
def classLines (ls : Lines) : List Nat := (List.range ls.length).filter (isClassLine ls)

variable {ls : Lines} {x : Except ReadFault Text} {es : List Entry} {above : Option Nat}
  {packages : Bool}

/-! ### Counting class lines -/

lemma classLines_concat (ls : Lines) (x : Except ReadFault Text) :
    classLines (ls ++ [x]) =
      classLines ls ++ if isClassLine (ls ++ [x]) ls.length then [ls.length] else [] := by
  have hbefore : (List.range ls.length).filter (isClassLine (ls ++ [x])) = classLines ls := by
    refine List.filter_congr fun i hi => ?_
    unfold isClassLine
    rw [lineAt?_append (List.mem_range.1 hi)]
  rw [classLines, List.length_append, List.length_singleton, List.range_succ, List.filter_append,
    hbefore]
  rcases h : isClassLine (ls ++ [x]) ls.length with _ | _ <;> simp [h]

lemma classLines_concat_of_classAt {o b : Text} (h : ClassAt (ls ++ [x]) ls.length o b) :
    (classLines (ls ++ [x])).length = (classLines ls).length + 1 := by
  have hc : isClassLine (ls ++ [x]) ls.length = true := isClassLine_iff.2 ⟨o, b, h⟩
  simp [classLines_concat, hc]

lemma classLines_concat_of_not (h : ∀ o b, ¬ClassAt (ls ++ [x]) ls.length o b) :
    (classLines (ls ++ [x])).length = (classLines ls).length := by
  have hc : ¬isClassLine (ls ++ [x]) ls.length = true := fun hc => by
    obtain ⟨o, b, hob⟩ := isClassLine_iff.1 hc
    exact h o b hob
  simp [classLines_concat, hc]

lemma duplicateNumbers_append (ds ds' : List Diagnostic) :
    duplicateNumbers (ds ++ ds') = duplicateNumbers ds ++ duplicateNumbers ds' :=
  List.filterMap_append

@[simp] lemma duplicateNumbers_nil : duplicateNumbers [] = [] := rfl

@[simp] lemma duplicateNumbers_orphan (n : Nat) (c : Text) :
    duplicateNumbers [.orphanMember n c] = [] := rfl

@[simp] lemma duplicateNumbers_duplicate (n : Nat) (c : Text) :
    duplicateNumbers [.duplicateClass n c] = [n] := rfl

/-- The classes mapped and the duplicates reported when the entries have been taken in. -/
def tally (packages : Bool) (es : List Entry) : Nat :=
  (Progress.after packages es).table.classes.size +
    (duplicateNumbers (reports (Progress.run packages {} es).2)).length

/-- A class line is mapped or reported. -/
lemma tally_classLine (packages : Bool) (es : List Entry) (n : Nat) (c o b : Text) :
    tally packages (es ++ [.classLine n c o b]) = tally packages es + 1 := by
  unfold tally
  rw [Progress.after_snoc, reports_snoc, duplicateNumbers_append, List.length_append,
    Progress.reports_step]
  by_cases hb : internal b ∈ (Progress.after packages es).table.classes
  · rw [Progress.step_classLine_of_mem hb]
    simp only [hb, if_true, duplicateNumbers_duplicate, List.length_singleton]
    omega
  · have hfresh : ¬(Progress.after packages es).table.classes.contains (internal b) = true := hb
    rw [Progress.step_classLine_of_not_mem hb]
    rw [Std.ExtTreeMap.size_insert, if_neg hfresh]
    simp only [hb, if_false, duplicateNumbers_nil, List.length_nil]
    omega

lemma tally_orphan (packages : Bool) (es : List Entry) (n : Nat) (c : Text) :
    tally packages (es ++ [.orphan n c]) = tally packages es := by
  unfold tally
  rw [Progress.after_snoc, reports_snoc, duplicateNumbers_append, Progress.reports_step,
    Progress.step_orphan]
  simp

lemma tally_member (packages : Bool) (es : List Entry) (member : Member) (m : Text) :
    tally packages (es ++ [.member member m]) = tally packages es := by
  unfold tally
  rw [Progress.after_snoc, reports_snoc, duplicateNumbers_append, Progress.reports_step]
  rcases ho : (Progress.after packages es).owner with _ | o
  · rw [Progress.step_member_of_none ho]
    simp
  · rcases member with d | d
    · rw [Progress.step_method_of_some ho]
      simp [Table.classes_addMethod]
    · simp

/-- **No class line is lost.** -/
theorem Reads.tally_eq (h : Reads ls es above) (packages : Bool) :
    tally packages es = (classLines ls).length := by
  induction h with
  | nil => rfl
  | @snoc ls es above x entry before here ih =>
    cases here with
    | ignored hi =>
      rw [Option.toList_none, List.append_nil, ih,
        classLines_concat_of_not fun o b => not_classAt_concat_of_ignored hi]
    | orphan hi hd _ =>
      rw [Option.toList_some, tally_orphan, ih,
        classLines_concat_of_not fun o b => not_classAt_concat_of_indented hi hd]
    | member hi hd _ _ =>
      rw [Option.toList_some, tally_member, ih,
        classLines_concat_of_not fun o b => not_classAt_concat_of_indented hi hd]
    | classLine hi hd hs =>
      rw [Option.toList_some, tally_classLine, ih,
        classLines_concat_of_classAt ⟨_, lineAt?_concat hi, hd, hs⟩]

/-! ### The whole account -/

lemma reports_load (packages : Bool) (s : Source) :
    reports (load packages s).1 =
      match (read packages s).2 with
      | .ok _ => reports (read packages s).1
      | .error e => reports (read packages s).1 ++ [.loadFailed (.stream e)] := by
  unfold load readStream
  rcases read packages s with ⟨events, e | t⟩
  · show reports (events ++ [_]) = _
    rw [reports_append]
    rfl
  · rfl

/-- **The account of a file.** If no line has a fault, all that was skipped is reported, and
nothing else, and every class line is counted as a class or as a duplicate. Else all that was
skipped above the first fault is reported, and after that the fault is, and the table is a new
one. -/
theorem load_account (packages : Bool) (bytes : List UInt8) :
    (∀ t, (read packages (.bytes bytes)).2 = .ok t →
      (∀ i, ¬FaultAt (fileLines bytes) i) ∧
      Reported (fileLines bytes) (reports (read packages (.bytes bytes)).1) ∧
      reports (load packages (.bytes bytes)).1 = reports (read packages (.bytes bytes)).1 ∧
      (load packages (.bytes bytes)).2 = t ∧
      t.classes.size + (duplicateNumbers (reports (read packages (.bytes bytes)).1)).length =
        (classLines (fileLines bytes)).length) ∧
    ∀ e, (read packages (.bytes bytes)).2 = .error e → ∃ i,
      FirstFault (fileLines bytes) i ∧
      Reported ((fileLines bytes).take i) (reports (read packages (.bytes bytes)).1) ∧
      reports (load packages (.bytes bytes)).1 =
        reports (read packages (.bytes bytes)).1 ++ [.loadFailed (.stream e)] ∧
      (load packages (.bytes bytes)).2 = {} := by
  refine ⟨fun t ht => ?_, fun e he => ?_⟩
  · obtain ⟨es, above, hr, rfl⟩ := read_eq_ok_iff.1 ht
    have hcount := hr.tally_eq packages
    refine ⟨fun i => hr.not_faultAt, ?_, by rw [reports_load, ht], by rw [load_snd, ht], ?_⟩
    · rw [hr.reports_read packages]
      exact hr.reported packages
    · rw [hr.reports_read packages]
      exact hcount
  · obtain ⟨before, x, more, es, above, e', hls, hr, hx⟩ :=
      (reads_or_stops (fileLines bytes)).resolve_left fun ⟨es, above, hr⟩ => by
        rw [hr.read_eq] at he
        cases he
    have hsplit : fileLines bytes = (before ++ [x]) ++ more := by simp [hls]
    have hfault : FaultAt (fileLines bytes) before.length :=
      hsplit ▸ (faultAt_append (by simp)).2 (hx.told hr).1
    refine ⟨before.length, ⟨hfault, fun j hj h => ?_⟩, ?_, by rw [reports_load, he],
      by rw [load_snd, he]⟩
    · rw [hls, faultAt_append hj] at h
      exact hr.not_faultAt h
    · rw [hr.read_stop hx hls packages, hls, List.take_left]
      exact hr.reported packages

/-- An orphan and a duplicate above a fault. -/
example :
    reports (load true (.bytes (Text.Utf8.encode
      "  f() -> x\n# c\nA -> a:\nB -> a:\n\nC\n".toList))).1 =
      [.orphanMember 1 "f() -> x".toList, .duplicateClass 4 "B -> a:".toList,
        .loadFailed (.stream ⟨6, none, .malformed (.noArrow 6 "C".toList)⟩)] := by
  decide

end Unmask.Mapping
