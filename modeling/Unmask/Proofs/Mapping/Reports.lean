import Unmask.Proofs.Mapping.Meaning

/-!
What is reported while a mapping file is read, said line by line: a member above the first class
line, and a class line that is a duplicate.
-/

namespace Unmask.Mapping

/-- The report `d` is made of line `i`. -/
def ReportAt (ls : Lines) (i : Nat) (d : Diagnostic) : Prop :=
  ∃ l, lineAt? ls i = some l ∧
    ((l.indented = true ∧ (∀ k < i, ∀ o b, ¬ClassAt ls k o b) ∧
        d = .orphanMember (i + 1) l.content) ∨
      (Duplicate ls i ∧ d = .duplicateClass (i + 1) l.content))

/-- The reports are those of all the lines, in the order of the lines. -/
def Reported (ls : Lines) (ds : List Diagnostic) : Prop :=
  ∃ rs : List (Nat × Diagnostic), (rs.Pairwise fun r r' => r.1 < r'.1) ∧
    (∀ i d, (i, d) ∈ rs ↔ ReportAt ls i d) ∧ rs.map Prod.snd = ds

variable {ls more : Lines} {x : Except ReadFault Text} {i : Nat} {d : Diagnostic}
  {ds : List Diagnostic} {es : List Entry} {above : Option Nat}

lemma ReportAt.lt (h : ReportAt ls i d) : i < ls.length := by
  obtain ⟨l, hl, -⟩ := h
  exact lt_of_lineAt? hl

lemma reportAt_append (h : i < ls.length) : ReportAt (ls ++ more) i d ↔ ReportAt ls i d := by
  unfold ReportAt
  rw [lineAt?_append h, duplicate_append h]
  refine exists_congr fun l => and_congr_right fun _ => or_congr_left (and_congr_right fun _ => ?_)
  refine and_congr_left fun _ => forall_congr' fun k => forall_congr' fun hk => ?_
  simp only [classAt_append (show k < ls.length by omega)]

lemma ReportAt.append (h : ReportAt ls i d) : ReportAt (ls ++ more) i d :=
  (reportAt_append h.lt).2 h

lemma reportAt_concat_cases (h : ReportAt (ls ++ [x]) i d) : ReportAt ls i d ∨ i = ls.length :=
  (lt_concat_cases h.lt).imp_left fun hi => (reportAt_append hi).1 h

/-- Of one line there is one report at most. -/
lemma ReportAt.unique {d' : Diagnostic} (h : ReportAt ls i d) (h' : ReportAt ls i d') :
    d = d' := by
  obtain ⟨l, hl, h⟩ := h
  obtain ⟨l', hl', h'⟩ := h'
  obtain rfl : l = l' := Option.some.inj (hl.symm.trans hl')
  have margin (hd : Duplicate ls i) : l.indented = false := by
    obtain ⟨o, b, ⟨l', hl', hm, -⟩, -⟩ := hd
    obtain rfl : l = l' := Option.some.inj (hl.symm.trans hl')
    exact hm
  rcases h with ⟨hi, -, rfl⟩ | ⟨hd, rfl⟩ <;> rcases h' with ⟨hi', -, rfl⟩ | ⟨hd', rfl⟩
  · rfl
  · rw [margin hd'] at hi
    cases hi
  · rw [margin hd] at hi'
    cases hi'
  · rfl

lemma reported_nil : Reported [] [] :=
  ⟨[], .nil, fun i d => ⟨fun h => (by cases h), fun h => absurd h.lt (by simp)⟩, rfl⟩

lemma Reported.mem_iff (h : Reported ls ds) : d ∈ ds ↔ ∃ i, ReportAt ls i d := by
  obtain ⟨rs, -, hr, rfl⟩ := h
  simp [← hr]

lemma Reported.concat_none (h : Reported ls ds)
    (hn : ∀ d, ¬ReportAt (ls ++ [x]) ls.length d) : Reported (ls ++ [x]) ds := by
  obtain ⟨rs, hs, hr, rfl⟩ := h
  refine ⟨rs, hs, fun i d => ⟨fun h => ((hr i d).1 h).append, fun h => ?_⟩, rfl⟩
  rcases reportAt_concat_cases h with hd | rfl
  · exact (hr i d).2 hd
  · exact absurd h (hn d)

lemma Reported.concat_some (h : Reported ls ds) (hd : ReportAt (ls ++ [x]) ls.length d) :
    Reported (ls ++ [x]) (ds ++ [d]) := by
  obtain ⟨rs, hs, hr, rfl⟩ := h
  refine ⟨rs ++ [(ls.length, d)], ?_, fun i d' => ?_, by simp⟩
  · refine List.pairwise_append.2 ⟨hs, List.pairwise_singleton _ _, fun r hr' r' h' => ?_⟩
    rw [List.mem_singleton.1 h']
    exact ((hr r.1 r.2).1 hr').lt
  · rw [List.mem_append, List.mem_singleton, hr i d', Prod.mk.injEq]
    refine ⟨?_, fun h => (reportAt_concat_cases h).imp_right fun hi => ⟨hi, ?_⟩⟩
    · rintro (h | ⟨rfl, rfl⟩)
      · exact h.append
      · exact hd
    · subst hi
      exact h.unique hd

lemma reports_snoc (packages : Bool) (es : List Entry) (e : Entry) :
    reports (Progress.run packages {} (es ++ [e])).2 =
      reports (Progress.run packages {} es).2 ++
        reports ((Progress.after packages es).step packages e).2 := by
  simp [Progress.run_append, Progress.run, Progress.after]

/-- **What is reported.** -/
theorem Reads.reported (h : Reads ls es above) (packages : Bool) :
    Reported ls (reports (Progress.run packages {} es).2) := by
  induction h with
  | nil => exact reported_nil
  | @snoc ls es above x entry before here ih =>
    -- only a class line can be a duplicate
    have not_duplicate (hc : ∀ o b, ¬ClassAt (ls ++ [x]) ls.length o b) :
        ¬Duplicate (ls ++ [x]) ls.length := fun ⟨o, b, h, _⟩ => hc o b h
    cases here with
    | ignored hi =>
      rw [Option.toList_none, List.append_nil]
      refine ih.concat_none fun d ⟨l, hl, _⟩ => ?_
      rw [lineAt?_concat_ignored hi] at hl
      cases hl
    | orphan hi hd ht =>
      rw [Option.toList_some, reports_snoc, Progress.reports_step]
      refine ih.concat_some ⟨_, lineAt?_concat hi, Or.inl ⟨hd, fun k hk o b h => ?_, rfl⟩⟩
      exact before.lastClass.1 ht k o b ((classAt_append hk).1 h)
    | member hi hd hb hs =>
      rw [Option.toList_some, reports_snoc, Progress.reports_step, List.append_nil]
      refine ih.concat_none ?_
      rintro d ⟨l, hl, ⟨-, hn, -⟩ | ⟨hdup, -⟩⟩
      · obtain ⟨i, -, ⟨o, b, hc⟩, -⟩ := before.lastClass.2 _ hb
        exact hn i hc.lt o b hc.append
      · exact not_duplicate (fun o b => not_classAt_concat_of_indented hi hd) hdup
    | classLine hi hd hs =>
      have hc := (⟨_, lineAt?_concat hi, hd, hs⟩ : ClassAt _ _ _ _)
      have hdup := (before.means packages).duplicate_concat_iff hc
      rw [Option.toList_some, reports_snoc, Progress.reports_step]
      simp only
      split_ifs with hb
      · exact ih.concat_some ⟨_, lineAt?_concat hi, Or.inr ⟨hdup.2 hb, rfl⟩⟩
      · rw [List.append_nil]
        refine ih.concat_none ?_
        rintro d ⟨l, hl, ⟨hn, -⟩ | ⟨hdup', -⟩⟩
        · rw [lineAt?_concat hi] at hl
          cases hl
          rw [hd] at hn
          cases hn
        · exact hb (hdup.1 hdup')

end Unmask.Mapping
