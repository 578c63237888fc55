import Unmask.Proofs.Mapping.File

/-!
Reading a mapping file line by line. `Part` lists what can come of one line, and `Reads` lets one
line in after the other; the reader does just that, up to the end of the file or to the first line
it cannot use.
-/

namespace Unmask.Mapping

/-- What comes of a line with the number `n` below the class line `above`. -/
def entryAt (n : Nat) (above : Option Nat) : Except ReadFault Text →
    Except LoadError (Option Entry)
  | .error f => .error ⟨n, above, .unreadable f⟩
  | .ok text => Entry.ofLine? above (Line.ofText n text)

/-- The parts a line can play, and what comes of each. -/
inductive Part (n : Nat) (above : Option Nat) :
    Except ReadFault Text → Except LoadError (Option Entry) → Prop
  | unreadable (f : ReadFault) : Part n above (.error f) (.error ⟨n, above, .unreadable f⟩)
  | ignored {text} (ignored : (Line.ofText n text).isIgnored = true) :
    Part n above (.ok text) (.ok none)
  | orphan {text} (ignored : (Line.ofText n text).isIgnored = false)
    (indented : (Line.ofText n text).indented = true) (top : above = none) :
    Part n above (.ok text) (.ok (some (.orphan n (Text.trim text))))
  | member {text k d m} (ignored : (Line.ofText n text).isIgnored = false)
    (indented : (Line.ofText n text).indented = true) (below : above = some k)
    (names : (Line.ofText n text).SaysMember d m) :
    Part n above (.ok text) (.ok (some (.member (Member.ofText d) m)))
  | badMember {text k} (ignored : (Line.ofText n text).isIgnored = false)
    (indented : (Line.ofText n text).indented = true) (below : above = some k)
    (bad : (Line.ofText n text).BadMember) :
    Part n above (.ok text) (.error ⟨n, above, .malformed (.noArrow n (Text.trim text))⟩)
  | classLine {text o b} (ignored : (Line.ofText n text).isIgnored = false)
    (indented : (Line.ofText n text).indented = false)
    (names : (Line.ofText n text).SaysClass o b) :
    Part n above (.ok text) (.ok (some (.classLine n (Text.trim text) o b)))
  | badClass {text f} (ignored : (Line.ofText n text).isIgnored = false)
    (indented : (Line.ofText n text).indented = false)
    (fault : (Line.ofText n text).classNames = .error f) :
    Part n above (.ok text) (.error ⟨n, none, .malformed f⟩)

variable {n : Nat} {above : Option Nat} {x : Except ReadFault Text} {ls : Lines}
  {es : List Entry}

lemma Part.entryAt_eq {r : Except LoadError (Option Entry)} (h : Part n above x r) :
    entryAt n above x = r := by
  cases h with
  | unreadable f => rfl
  | ignored hi => simp [entryAt, Entry.ofLine?, hi]
  | orphan hi hd ht => simp [entryAt, Entry.ofLine?, hi, hd, ht]
  | member hi hd hb hs =>
    simp [entryAt, Entry.ofLine?, hi, hd, hb, Line.memberNames_eq_ok_iff.2 hs]
  | badMember hi hd hb hbad =>
    simp [entryAt, Entry.ofLine?, hi, hd, hb, Line.memberNames_eq_error_iff.2 ⟨hbad, rfl⟩]
  | classLine hi hd hs =>
    simp [entryAt, Entry.ofLine?, hi, hd, Line.classNames_eq_ok_iff.2 hs]
  | badClass hi hd hf => simp [entryAt, Entry.ofLine?, hi, hd, hf]

lemma part_entryAt (n : Nat) (above : Option Nat) (x : Except ReadFault Text) :
    Part n above x (entryAt n above x) := by
  suffices h : ∃ r, Part n above x r by
    obtain ⟨r, hr⟩ := h
    rw [hr.entryAt_eq]
    exact hr
  rcases x with f | text
  · exact ⟨_, .unreadable f⟩
  rcases hi : (Line.ofText n text).isIgnored with _ | _
  · rcases hd : (Line.ofText n text).indented with _ | _
    · rcases hc : (Line.ofText n text).classNames with f | ⟨o, b⟩
      · exact ⟨_, .badClass hi hd hc⟩
      · exact ⟨_, .classLine hi hd (Line.classNames_eq_ok_iff.1 hc)⟩
    · rcases above with _ | k
      · exact ⟨_, .orphan hi hd rfl⟩
      · rcases hm : (Line.ofText n text).memberNames with f | ⟨d, m⟩
        · exact ⟨_, .badMember hi hd rfl (Line.memberNames_eq_error_iff.1 hm).1⟩
        · exact ⟨_, .member hi hd rfl (Line.memberNames_eq_ok_iff.1 hm)⟩
  · exact ⟨_, .ignored hi⟩

/-- All lines can be used: they make these entries, and the last class line has the number
`above`. -/
inductive Reads : Lines → List Entry → Option Nat → Prop
  | nil : Reads [] [] none
  | snoc {ls es above x entry} (before : Reads ls es above)
    (here : Part (ls.length + 1) above x (.ok entry)) :
    Reads (ls ++ [x]) (es ++ entry.toList) (Entry.above entry above)

/-- The number that is kept is the one of the last class line. -/
lemma Reads.lastClass (h : Reads ls es above) :
    (above = none → ∀ i o b, ¬ClassAt ls i o b) ∧
      ∀ k, above = some k → ∃ i, k = i + 1 ∧ LastClass ls i := by
  induction h with
  | nil => exact ⟨fun _ i o b hc => absurd hc.lt (by simp), fun k hk => (by cases hk)⟩
  | @snoc ls es above x entry _ here ih =>
    -- only a class line makes a difference
    have keep (hc : ∀ o b, ¬ClassAt (ls ++ [x]) ls.length o b) :
        (above = none → ∀ i o b, ¬ClassAt (ls ++ [x]) i o b) ∧
          ∀ k, above = some k → ∃ i, k = i + 1 ∧ LastClass (ls ++ [x]) i := by
      refine ⟨fun ha i o b h => ?_, fun k hk => ?_⟩
      · rcases classAt_concat_cases h with h | rfl
        · exact ih.1 ha i o b h
        · exact hc o b h
      · obtain ⟨i, hi, hl⟩ := ih.2 k hk
        exact ⟨i, hi, (lastClass_concat_of_not hc).2 hl⟩
    cases here with
    | ignored hi => exact keep fun o b => not_classAt_concat_of_ignored hi
    | orphan hi hd _ => exact keep fun o b => not_classAt_concat_of_indented hi hd
    | member hi hd _ _ => exact keep fun o b => not_classAt_concat_of_indented hi hd
    | classLine hi hd hs =>
      refine ⟨fun ha => (by cases ha), fun k hk => ?_⟩
      cases hk
      exact ⟨ls.length, rfl, (lastClass_concat ⟨_, lineAt?_concat hi, hd, hs⟩).2 rfl⟩

lemma entriesFrom_cons (n : Nat) (above : Option Nat) (x : Except ReadFault Text) (ls : Lines) :
    entriesFrom n above (x :: ls) =
      match entryAt n above x with
      | .error e => ([], some e)
      | .ok entry =>
        (entry.toList ++ (entriesFrom (n + 1) (Entry.above entry above) ls).1,
          (entriesFrom (n + 1) (Entry.above entry above) ls).2) := by
  rcases x with f | text
  · rfl
  · rcases h : Entry.ofLine? above (Line.ofText n text) with e | entry
    · simp [entriesFrom, entryAt, h]
    · simp [entriesFrom, entryAt, h]

/-- Lines that can be used are read before any others. -/
theorem Reads.entriesFrom_append (h : Reads ls es above) (more : Lines) :
    entriesFrom 1 none (ls ++ more) =
      (es ++ (entriesFrom (ls.length + 1) above more).1,
        (entriesFrom (ls.length + 1) above more).2) := by
  induction h generalizing more with
  | nil => simp
  | @snoc ls es above x entry _ here ih =>
    rw [List.append_assoc, List.singleton_append, ih, entriesFrom_cons, here.entryAt_eq]
    simp [List.append_assoc]

lemma Reads.entriesFrom_eq (h : Reads ls es above) : entriesFrom 1 none ls = (es, none) := by
  simpa [entriesFrom] using h.entriesFrom_append []

/-- A line that cannot be used ends the reading. -/
lemma Reads.entriesFrom_stop {e : LoadError} (h : Reads ls es above)
    (hx : Part (ls.length + 1) above x (.error e)) (more : Lines) :
    entriesFrom 1 none (ls ++ x :: more) = (es, some e) := by
  rw [h.entriesFrom_append, entriesFrom_cons, hx.entryAt_eq]
  simp

/-- Either all lines can be used, or there is a first one that cannot. -/
theorem reads_or_stops (ls : Lines) :
    (∃ es above, Reads ls es above) ∨
      ∃ before x more es above e, ls = before ++ x :: more ∧ Reads before es above ∧
        Part (before.length + 1) above x (.error e) := by
  induction ls using List.reverseRecOn with
  | nil => exact Or.inl ⟨_, _, .nil⟩
  | append_singleton ls x ih =>
    rcases ih with ⟨es, above, h⟩ | ⟨before, y, more, es, above, e, rfl, h, hy⟩
    · have hp := part_entryAt (ls.length + 1) above x
      rcases hx : entryAt (ls.length + 1) above x with e | entry
      · rw [hx] at hp
        exact Or.inr ⟨ls, x, [], es, above, e, rfl, h, hp⟩
      · rw [hx] at hp
        exact Or.inl ⟨_, _, .snoc h hp⟩
    · exact Or.inr ⟨before, y, more ++ [x], es, above, e, by simp, h, hy⟩

end Unmask.Mapping
