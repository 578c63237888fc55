import Unmask.Proofs.Mapping.Calls
import Unmask.Proofs.Mapping.Outcome
import Unmask.Proofs.Table.Spelling

/-!
The spelling of names in a mapping file. A line at the margin that spells its names another way is
still a class line, for the same class, and the table of the file is the same.
-/

namespace Unmask.Mapping

open Name Table

/-- The line with the names of its class in internal form. Class lines stand at the margin, and
no other line there can be used. -/
def internalLine (x : Except ReadFault Text) : Except ReadFault Text :=
  x.map fun text => if text.head?.any Text.isBlank then text else internal text

/-- The entry with the names of its class in internal form. -/
def Entry.internal : Entry → Entry
  | classLine n content real obfuscated =>
    classLine n (Name.internal content) (Name.internal real) (Name.internal obfuscated)
  | orphan n content => orphan n content
  | member m obfuscated => member m obfuscated

/-! ### One line -/

namespace Line

variable {n : Nat} {text o b : Text}

lemma indented_internal : (ofText n (internal text)).indented = (ofText n text).indented := by
  rcases text with _ | ⟨c, r⟩
  · rfl
  · exact Text.isBlank_replaced (by decide) (by decide) c

lemma trim_internal (text : Text) : Text.trim (internal text) = internal (Text.trim text) :=
  Text.trim_replace (by decide) (by decide) text

lemma isIgnored_internal : (ofText n (internal text)).isIgnored = (ofText n text).isIgnored := by
  have hempty : (internal (Text.trim text)).isEmpty = (Text.trim text).isEmpty :=
    List.isEmpty_map
  have hhead : (internal (Text.trim text)).head? = some '#' ↔
      (Text.trim text).head? = some '#' :=
    Text.head?_replace_eq_some_iff (by decide) (by decide)
  rw [isIgnored, content_ofText, trim_internal, hempty, decide_eq_decide.2 hhead]
  rfl

lemma cutAt_internal {left right : Text} (h : Text.CutAt arrow (ofText n text).content left right) :
    Text.CutAt arrow (ofText n (internal text)).content (internal left) (internal right) := by
  rw [content_ofText, trim_internal]
  exact h.replace (by decide) (by decide)

lemma SaysClass.internal (h : (ofText n text).SaysClass o b) :
    (ofText n (Name.internal text)).SaysClass (Name.internal o) (Name.internal b) := by
  obtain ⟨left, right, hc, rfl, hb, hne⟩ := h
  refine ⟨Name.internal left, Name.internal right, cutAt_internal hc, trim_internal left, ?_, ?_⟩
  · rw [trim_internal, hb]
    exact Text.replace_append '.' '/' b [':']
  · rwa [ne_eq, internal_eq_nil_iff]

lemma BadClass.internal (h : (ofText n text).BadClass) :
    (ofText n (Name.internal text)).BadClass := by
  rcases h with h | ⟨left, right, hc, hbad⟩
  · refine Or.inl ?_
    rw [content_ofText, trim_internal]
    rwa [Name.internal, Text.infix_replace_iff (by decide) (by decide)]
  · refine Or.inr ⟨Name.internal left, Name.internal right, cutAt_internal hc, ?_⟩
    rintro ⟨name, hne, he⟩
    rw [trim_internal, ← List.append_nil (_ ++ _)] at he
    obtain ⟨name', rest, hr, rfl, hrest⟩ :=
      Text.exists_of_replace_eq (by decide) (by decide) he
    obtain rfl := Text.replace_eq_nil_iff.1 hrest
    exact hbad ⟨name', fun hn => hne (Text.replace_eq_nil_iff.2 hn), by rw [hr, List.append_nil]⟩

end Line

variable {n : Nat} {above : Option Nat} {x : Except ReadFault Text} {text : Text}

lemma internalLine_of_indented (h : (Line.ofText n text).indented = true) :
    internalLine (.ok text) = .ok text := by
  have hb : text.head?.any Text.isBlank = true := h
  simp [internalLine, Except.map, hb]

lemma internalLine_of_margin (h : (Line.ofText n text).indented = false) :
    internalLine (.ok text) = .ok (internal text) := by
  have hb : text.head?.any Text.isBlank = false := h
  simp [internalLine, Except.map, hb]

/-- A line that can be used plays the same part in internal form. -/
lemma Part.internal_ok {entry : Option Entry} (h : Part n above x (.ok entry)) :
    Part n above (internalLine x) (.ok (entry.map Entry.internal)) := by
  cases h with
  | @ignored text hi =>
    rcases hd : (Line.ofText n text).indented with _ | _
    · rw [internalLine_of_margin hd]
      exact .ignored (Line.isIgnored_internal.trans hi)
    · rw [internalLine_of_indented hd]
      exact .ignored hi
  | orphan hi hd ht =>
    rw [internalLine_of_indented hd]
    exact .orphan hi hd ht
  | member hi hd hb hs =>
    rw [internalLine_of_indented hd]
    exact .member hi hd hb hs
  | @classLine text o b hi hd hs =>
    rw [internalLine_of_margin hd]
    have hcontent := Line.trim_internal text
    rw [Option.map_some, Entry.internal, ← hcontent]
    exact .classLine (Line.isIgnored_internal.trans hi) (Line.indented_internal.trans hd)
      hs.internal

/-- Nor can a line be used in internal form that cannot be as it is. -/
lemma Part.internal_error {e : LoadError} (h : Part n above x (.error e)) :
    ∃ e', Part n above (internalLine x) (.error e') := by
  cases h with
  | unreadable f => exact ⟨_, .unreadable f⟩
  | badMember hi hd hb hbad =>
    rw [internalLine_of_indented hd]
    exact ⟨_, .badMember hi hd hb hbad⟩
  | badClass hi hd hf =>
    rw [internalLine_of_margin hd]
    have hbad := (Line.exists_classNames_eq_error_iff.1 ⟨_, hf⟩).internal
    obtain ⟨f, hf⟩ := Line.exists_classNames_eq_error_iff.2 hbad
    exact ⟨_, .badClass (Line.isIgnored_internal.trans hi) (Line.indented_internal.trans hd) hf⟩

/-! ### All lines -/

variable {ls ls' : Lines} {es : List Entry}

lemma above_map_internal (entry : Option Entry) (above : Option Nat) :
    Entry.above (entry.map Entry.internal) above = Entry.above entry above := by
  rcases entry with _ | ⟨n, c⟩ | ⟨n, c, o, b⟩ | ⟨m, b⟩ <;> rfl

lemma Reads.internal (h : Reads ls es above) :
    Reads (ls.map internalLine) (es.map Entry.internal) above := by
  induction h with
  | nil => exact .nil
  | @snoc ls es above x entry before here ih =>
    have hlast := here.internal_ok
    rw [← List.length_map internalLine] at hlast
    have hreads := Reads.snoc ih hlast
    rw [above_map_internal, Option.toList_map, ← List.map_append] at hreads
    simpa using hreads

/-- Files that differ in the spelling of names are read alike. -/
lemma Reads.respelled (h : Reads ls es above) (heq : ls.map internalLine = ls'.map internalLine) :
    ∃ es' above', Reads ls' es' above' ∧ es'.map Entry.internal = es.map Entry.internal := by
  have hread := h.internal.entriesFrom_eq
  rcases reads_or_stops ls' with
    ⟨es', above', h'⟩ | ⟨before, x, more, es', above', e, rfl, h', hx⟩
  · rw [heq, h'.internal.entriesFrom_eq] at hread
    exact ⟨es', above', h', congrArg Prod.fst hread⟩
  · -- a line that stops the one file would stop the other
    obtain ⟨e', hx'⟩ := hx.internal_error
    rw [← List.length_map internalLine] at hx'
    rw [heq, List.map_append, List.map_cons, h'.internal.entriesFrom_stop hx'] at hread
    exact absurd (congrArg Prod.snd hread) (by simp)

/-! ### The table -/

lemma packageCalls_internal (packages : Bool) (o b : Text) :
    packageCalls packages (internal o) (internal b) = packageCalls packages o b := by
  simp only [packageCalls, packagesOf?, internal_internal]

lemma calls_internal (packages : Bool) (e : Entry) :
    (e.internal.calls packages).map Call.internal = (e.calls packages).map Call.internal := by
  rcases e with ⟨n, c⟩ | ⟨n, c, o, b⟩ | ⟨d | d, m⟩
  · rfl
  · simp only [Entry.internal, Entry.calls, packageCalls_internal, List.map_append, List.map_cons,
      List.map_nil, Call.internal, internal_internal]
  · rfl
  · rfl

lemma flatMap_calls_internal (packages : Bool) (es : List Entry) :
    ((es.map Entry.internal).flatMap (Entry.calls packages)).map Call.internal =
      (es.flatMap (Entry.calls packages)).map Call.internal := by
  simp only [List.flatMap_map, List.map_flatMap, calls_internal]

lemma table_after_eq (packages : Bool) (es : List Entry) :
    (Progress.after packages es).table =
      (Session.run {} (es.flatMap (Entry.calls packages))).table :=
  congrArg Session.table (Progress.session_run {} packages es)

/-- **Spellings of a file.** If lines at the margin spell their names another way, the table of a
file that can be read is the same. -/
theorem read_respelled {packages : Bool} {bytes bytes' : List UInt8} {t : Table}
    (h : (read packages (.bytes bytes)).2 = .ok t)
    (heq : (fileLines bytes).map internalLine = (fileLines bytes').map internalLine) :
    (read packages (.bytes bytes')).2 = .ok t := by
  obtain ⟨es, above, hr, rfl⟩ := read_eq_ok_iff.1 h
  obtain ⟨es', above', hr', hes⟩ := hr.respelled heq
  refine read_eq_ok_iff.2 ⟨es', above', hr', ?_⟩
  rw [table_after_eq, table_after_eq]
  refine Session.table_run_congr {} ?_
  rw [← flatMap_calls_internal, ← hes, flatMap_calls_internal]

end Unmask.Mapping
