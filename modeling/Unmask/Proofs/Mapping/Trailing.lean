import Unmask.Proofs.Mapping.Outcome
import Unmask.Proofs.Text.Padded

/-!
Blanks at the ends of lines. A line is trimmed before anything is made of it, and whether it is
indented is told by its start, so what is read does not depend on them.
-/

namespace Unmask.Mapping

/-- The lines on the right are those on the left with blanks behind some of them, and possibly a
blank line at the end. -/
inductive Trailing : Lines → Lines → Prop
  | nil : Trailing [] []
  | blank {blanks : Text} (hb : ∀ c ∈ blanks, Text.isBlank c = true) : Trailing [] [.ok blanks]
  | unreadable {ls ls'} (f : ReadFault) (rest : Trailing ls ls') :
    Trailing (.error f :: ls) (.error f :: ls')
  | line {ls ls'} (text : Text) {blanks : Text} (hb : ∀ c ∈ blanks, Text.isBlank c = true)
    (rest : Trailing ls ls') : Trailing (.ok text :: ls) (.ok (text ++ blanks) :: ls')

variable {n : Nat} {above : Option Nat} {ls ls' : Lines} {text blanks : Text}
  {bytes bytes' pad : List UInt8}

/-! ### What is read of them -/

lemma isIgnored_of_blank (hb : ∀ c ∈ blanks, Text.isBlank c = true) :
    (Line.ofText n blanks).isIgnored = true := by
  have htrim : Text.trim blanks = [] := Text.trim_eq_nil_iff.2 hb
  simp [Line.isIgnored, htrim]

lemma entryAt_of_ignored (h : (Line.ofText n text).isIgnored = true) :
    entryAt n above (.ok text) = .ok none :=
  (Part.ignored h).entryAt_eq

lemma entryAt_append_blanks (text : Text) (hb : ∀ c ∈ blanks, Text.isBlank c = true) :
    entryAt n above (.ok (text ++ blanks)) = entryAt n above (.ok text) := by
  rcases text with _ | ⟨c, r⟩
  · rw [List.nil_append, entryAt_of_ignored (isIgnored_of_blank hb),
      entryAt_of_ignored (isIgnored_of_blank (by simp))]
  · have hline : Line.ofText n ((c :: r) ++ blanks) = Line.ofText n (c :: r) := by
      rw [Line.ofText, Text.trim_append_blanks (c :: r) hb]
      rfl
    rw [entryAt, hline, entryAt]

/-- Blanks at the ends of lines are not heard of. -/
theorem Trailing.entriesFrom_eq (h : Trailing ls ls') (n : Nat) (above : Option Nat) :
    entriesFrom n above ls' = entriesFrom n above ls := by
  induction h generalizing n above with
  | nil => rfl
  | blank hb =>
    rw [entriesFrom_cons, entryAt_of_ignored (isIgnored_of_blank hb)]
    rfl
  | unreadable f _ _ => rfl
  | line text hb _ ih =>
    rw [entriesFrom_cons, entriesFrom_cons, entryAt_append_blanks text hb]
    simp only [ih]

lemma dropMarks_append_blanks (text : Text) (hb : ∀ c ∈ blanks, Text.isBlank c = true) :
    (text ++ blanks).dropWhile (· = '\ufeff') = text.dropWhile (· = '\ufeff') ++ blanks := by
  have hblanks : blanks.dropWhile (· = '\ufeff') = blanks := by
    rcases blanks with _ | ⟨c, r⟩
    · rfl
    · refine List.dropWhile_cons_of_neg fun hc => ?_
      have hmark := hb c (by simp)
      rw [of_decide_eq_true hc] at hmark
      exact absurd hmark (by decide)
  rw [List.dropWhile_append, hblanks]
  split
  · next hnil => rw [List.isEmpty_iff.1 hnil, List.nil_append]
  · rfl

/-- A byte order mark is no blank, so taking marks away leaves the blanks. -/
lemma Trailing.dropMarks (h : Trailing ls ls') :
    Trailing (dropMarks ls) (dropMarks ls') := by
  cases h with
  | nil => exact .nil
  | blank hb =>
    have hdrop := dropMarks_append_blanks [] hb
    rw [List.nil_append] at hdrop
    rw [Mapping.dropMarks, Mapping.dropMarks, hdrop]
    · exact .blank hb
    · rintro text rest he
      cases he
  | unreadable f rest => exact .unreadable f rest
  | line text hb rest =>
    rw [Mapping.dropMarks, Mapping.dropMarks, dropMarks_append_blanks text hb]
    exact .line _ hb rest

/-! ### Where they come from -/

open Text (IsPad Padded linesFrom ended)

lemma Trailing.cons (x : Except ReadFault Text) (hb : ∀ c ∈ blanks, Text.isBlank c = true)
    (rest : Trailing ls ls') : Trailing (x :: ls) (x.map (· ++ blanks) :: ls') := by
  rcases x with f | text
  · exact .unreadable f rest
  · exact .line text hb rest

/-- Blanks behind a line are blanks behind its text, if it has one. -/
lemma exists_readLine_append (line : List UInt8) (hpad : ∀ b ∈ pad, IsPad b) :
    ∃ blanks, (∀ c ∈ blanks, Text.isBlank c = true) ∧
      Source.readLine (line ++ pad) = (Source.readLine line).map (· ++ blanks) := by
  refine ⟨pad.map fun b => Char.ofNat b.toNat, fun c hc => ?_, ?_⟩
  · obtain ⟨b, hb, rfl⟩ := List.mem_map.1 hc
    exact (hpad b hb).isBlank
  · have hd := Text.Utf8.decode_append_ascii line fun b hb => (hpad b hb).lt
    rw [Source.readLine, Source.readLine, hd]
    rcases Text.Utf8.decode line with _ | text <;> rfl

lemma Trailing.readLine {line line' : List UInt8} (hpad : ∀ b ∈ pad, IsPad b)
    (he : line' = line ++ pad) (rest : Trailing ls ls') :
    Trailing (Source.readLine line :: ls) (Source.readLine line' :: ls') := by
  obtain ⟨blanks, hb, hread⟩ := exists_readLine_append line hpad
  rw [he, hread]
  exact .cons _ hb rest

/-- The induction is along the padding, and `seen` holds what both files have of the current
line. -/
lemma trailing_of_padded (h : Padded bytes bytes') (seen : List UInt8) :
    Trailing ((linesFrom seen bytes).map Source.readLine)
      ((linesFrom seen bytes').map Source.readLine) := by
  induction h generalizing seen with
  | @finish pad hpad =>
    rw [Text.linesFrom_of_pads seen hpad]
    rcases seen with _ | ⟨s, seen⟩
    · rcases pad with _ | ⟨b, pad⟩
      · exact .nil
      · obtain ⟨blanks, hb, hread⟩ := exists_readLine_append [] hpad
        rw [List.nil_append] at hread
        rw [if_neg (by simp)]
        show Trailing [] [Source.readLine (b :: pad)]
        rw [hread]
        exact .blank hb
    · rw [if_neg (by simp)]
      exact .readLine hpad rfl .nil
  | octet b _ ih =>
    rw [Text.linesFrom_cons, Text.linesFrom_cons]
    by_cases hb : b = 0x0a
    · rw [if_pos hb, if_pos hb, List.map_cons, List.map_cons]
      exact .readLine (by simp) (List.append_nil _).symm (ih [])
    · rw [if_neg hb, if_neg hb]
      exact ih (b :: seen)
  | lineFeed hpad _ ih =>
    obtain ⟨pad', hpad', he⟩ := Text.exists_ended_reverse_append seen hpad
    rw [Text.linesFrom_pad_append seen _ hpad, Text.linesFrom_cons, Text.linesFrom_cons,
      if_pos rfl, if_pos rfl, List.map_cons, List.map_cons]
    exact .readLine hpad' he (ih [])
  | @returned pad r r' hpad _ ih =>
    have he : ended (0x0d :: (pad.reverse ++ seen)) = ended (0x0d :: seen) ++ pad := by
      simp [ended]
    have hreturn (seen r : List UInt8) :
        linesFrom seen (0x0d :: 0x0a :: r) = ended (0x0d :: seen) :: linesFrom [] r := by
      rw [Text.linesFrom_cons, if_neg (by decide), Text.linesFrom_cons, if_pos rfl]
    rw [Text.linesFrom_pad_append seen _ hpad, hreturn, hreturn, List.map_cons, List.map_cons]
    exact .readLine hpad he (ih [])

/-- A file is read as its lines are. -/
lemma read_eq_of_trailing (h : Trailing (fileLines bytes) (fileLines bytes')) (packages : Bool) :
    read packages (.bytes bytes') = read packages (.bytes bytes) := by
  have hentries : entries (.bytes bytes') = entries (.bytes bytes) :=
    h.entriesFrom_eq 1 none
  rw [read, hentries, read]

theorem read_padded (h : Padded bytes bytes') (packages : Bool) :
    read packages (.bytes bytes') = read packages (.bytes bytes) :=
  read_eq_of_trailing (trailing_of_padded h []).dropMarks packages

lemma fileLines_mark_append (h : Text.lines bytes ≠ []) :
    fileLines (Text.mark ++ bytes) = fileLines bytes := by
  obtain ⟨l, ls, hl⟩ := List.exists_cons_of_ne_nil h
  rw [fileLines_eq, fileLines_eq, Text.lines_mark_append, hl, List.map_cons, List.map_cons,
    Source.readLine, Source.readLine, Text.Utf8.decode_mark_append]
  rcases Text.Utf8.decode l with _ | text
  · rfl
  · show Except.ok (('\ufeff' :: text).dropWhile (· = '\ufeff')) :: _ = _
    rw [List.dropWhile_cons_of_pos (by decide)]
    rfl

/-- A byte order mark in front of a file is taken away with those that are there. An empty file
becomes a blank line. -/
theorem read_mark_append (bytes : List UInt8) (packages : Bool) :
    read packages (.bytes (Text.mark ++ bytes)) = read packages (.bytes bytes) := by
  by_cases h : Text.lines bytes = []
  · have hempty : fileLines bytes = [] := by
      rw [fileLines_eq, h]
      rfl
    have hmark : fileLines (Text.mark ++ bytes) = [.ok []] := by
      rw [fileLines_eq, Text.lines_mark_append, h]
      decide
    refine read_eq_of_trailing ?_ packages
    rw [hempty, hmark]
    exact .blank (by simp)
  · rw [read, entries_bytes, fileLines_mark_append h, ← entries_bytes, read]

end Unmask.Mapping
