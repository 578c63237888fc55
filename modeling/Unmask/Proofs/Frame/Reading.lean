import Mathlib.Data.List.Forall2
import Mathlib.Data.List.ReduceOption
import Unmask.Proofs.Frame.Spelling
import Unmask.Proofs.Text.Utf8

/-!
Reading the frames of a stack trace, line by line. Lines that say something are read to the end;
the first that does not ends the reading, and nothing above it is kept.
-/

namespace Unmask.Frame

open Text (isBlank decimal)
open Text.Utf8 (encode)

/-- What a line has to say: nothing if it is blank, and else a frame. -/
inductive Says : List UInt8 → Option Frame → Prop
  | blank {text} (h : ∀ c ∈ text, isBlank c = true) : Says (encode text) none
  | frame {text f} (h : Spells text f) : Says (encode text) (some f)

/-- What is wrong with line `n`, as messages from the outermost to the innermost. -/
inductive Faulty (n : Nat) : List UInt8 → List Text → Prop
  | notUtf8 {line} (h : ∀ text, encode text ≠ line) :
      Faulty n line ["failed to read line ".toList ++ decimal n, ReadFault.notUtf8.message]
  | malformed {text e} (hc : ∃ c ∈ text, isBlank c = false) (h : parse text = .error e) :
      Faulty n (encode text) ["in line ".toList ++ decimal n, e.message]

variable {n : Nat} {line : List UInt8} {above below : List (List UInt8)} {text : Text}
  {messages : List Text} {said? : Option Frame} {said : List (Option Frame)} {f : Frame}

lemma readLine_encode (text : Text) : Source.readLine (encode text) = .ok text := by
  rw [Source.readLine, Text.Utf8.decode_eq_some_iff.2 rfl]

lemma readLine_of_notUtf8 (h : ∀ text, encode text ≠ line) :
    Source.readLine line = .error .notUtf8 := by
  rw [Source.readLine, Text.Utf8.decode_eq_none_iff.2 fun ⟨text, ht⟩ => h text ht]

/-- A frame has words, so a line with one is not blank. -/
lemma Spells.exists_not_blank (h : Spells text f) : ∃ c ∈ text, isBlank c = false := by
  by_contra hall
  have hwords : Text.words text = [] := Text.words_of_blanks fun c hc => by
    by_contra hb
    exact hall ⟨c, hc, Bool.not_eq_true _ ▸ hb⟩
  cases h with
  | apart hw => rw [hwords] at hw; cases hw
  | joined hw => rw [hwords] at hw; cases hw

lemma all_isBlank_eq_false (h : ∃ c ∈ text, isBlank c = false) :
    ¬text.all isBlank = true := by
  obtain ⟨c, hc, hb⟩ := h
  intro hall
  rw [List.all_eq_true.1 hall c hc] at hb
  cases hb

/-! ### One line -/

lemma Says.readFrom_cons (h : Says line said?) (n : Nat) (rest : List (Except ReadFault Text)) :
    readFrom n (Source.readLine line :: rest) =
      (readFrom (n + 1) rest).map (said?.toList ++ ·) := by
  cases h with
  | blank hb =>
    rw [readLine_encode, readFrom, if_pos (List.all_eq_true.2 hb)]
    cases readFrom (n + 1) rest <;> rfl
  | frame hs =>
    rw [readLine_encode, readFrom, if_neg (all_isBlank_eq_false hs.exists_not_blank),
      parse_eq_ok_iff.2 hs]
    rfl

lemma Faulty.readFrom_cons (h : Faulty n line messages) (rest : List (Except ReadFault Text)) :
    ∃ e, readFrom n (Source.readLine line :: rest) = .error e ∧ e.chain = messages := by
  cases h with
  | notUtf8 h =>
    rw [readLine_of_notUtf8 h]
    exact ⟨_, rfl, rfl⟩
  | malformed hc h =>
    rw [readLine_encode, readFrom, if_neg (all_isBlank_eq_false hc), h]
    exact ⟨_, rfl, rfl⟩

/-- A line says something, or something is wrong with it. -/
lemma says_or_faulty (n : Nat) (line : List UInt8) :
    (∃ said?, Says line said?) ∨ ∃ messages, Faulty n line messages := by
  rcases hd : Text.Utf8.decode line with _ | text
  · exact .inr ⟨_, .notUtf8 fun text ht => Text.Utf8.decode_eq_none_iff.1 hd ⟨text, ht⟩⟩
  obtain rfl := Text.Utf8.decode_eq_some_iff.1 hd
  by_cases hb : ∀ c ∈ text, isBlank c = true
  · exact .inl ⟨_, .blank hb⟩
  rcases hp : parse text with e | f
  · refine .inr ⟨_, .malformed ?_ hp⟩
    simpa using hb
  · exact .inl ⟨_, .frame (parse_eq_ok_iff.1 hp)⟩

/-- The two exclude each other. -/
lemma Faulty.not_said (h : Faulty n line messages) : ¬Says line said? := by
  intro hs
  obtain ⟨e, he, -⟩ := h.readFrom_cons []
  rw [hs.readFrom_cons] at he
  cases he

/-! ### All lines -/

lemma readFrom_of_said (h : List.Forall₂ Says above said) (n : Nat)
    (rest : List (Except ReadFault Text)) :
    readFrom n (above.map Source.readLine ++ rest) =
      (readFrom (n + above.length) rest).map (said.reduceOption ++ ·) := by
  induction h generalizing n with
  | nil =>
    show readFrom n rest = (readFrom n rest).map fun fs => fs
    cases readFrom n rest <;> rfl
  | @cons line said? above said hs _ ih =>
    have hlength : n + (line :: above).length = n + 1 + above.length := by
      rw [List.length_cons]
      omega
    rw [List.map_cons, List.cons_append, hs.readFrom_cons, ih, hlength]
    rcases readFrom (n + 1 + above.length) rest with e | fs
    · rfl
    · cases said? <;> rfl

lemma exists_said (h : ∀ line ∈ above, ∃ said?, Says line said?) :
    ∃ said, List.Forall₂ Says above said := by
  induction above with
  | nil => exact ⟨[], .nil⟩
  | cons line above ih =>
    obtain ⟨said?, hs⟩ := h line List.mem_cons_self
    obtain ⟨said, hall⟩ := ih fun l hl => h l (List.mem_cons_of_mem line hl)
    exact ⟨said? :: said, .cons hs hall⟩

/-- Lines all say something, or there is a first that does not. -/
lemma all_says_or_exists_faulty (n : Nat) (lines : List (List UInt8)) :
    (∀ line ∈ lines, ∃ said?, Says line said?) ∨
      ∃ above line below messages, lines = above ++ line :: below ∧
        (∀ l ∈ above, ∃ said?, Says l said?) ∧ Faulty (above.length + n) line messages := by
  induction lines generalizing n with
  | nil => exact .inl fun _ h => (List.not_mem_nil h).elim
  | cons line lines ih =>
    rcases says_or_faulty n line with hs | ⟨messages, hf⟩
    · rcases ih (n + 1) with hall | ⟨above, l, below, messages, rfl, habove, hf⟩
      · refine .inl fun l hl => ?_
        rcases List.mem_cons.1 hl with rfl | hl
        · exact hs
        · exact hall l hl
      · refine .inr ⟨line :: above, l, below, messages, rfl, fun k hk => ?_, ?_⟩
        · rcases List.mem_cons.1 hk with rfl | hk
          · exact hs
          · exact habove k hk
        · rwa [List.length_cons, Nat.add_assoc, Nat.add_comm 1]
    · refine .inr ⟨[], line, lines, messages, rfl, fun _ h => (List.not_mem_nil h).elim, ?_⟩
      rwa [List.length_nil, Nat.zero_add]

variable {bytes : List UInt8}

lemma readAll_of_said (h : List.Forall₂ Says (Text.lines bytes) said) :
    readAll (.bytes bytes) = .ok said.reduceOption := by
  have hread := readFrom_of_said h 1 []
  rw [List.append_nil] at hread
  rw [readAll]
  exact hread.trans (congrArg Except.ok (List.append_nil _))

lemma readAll_of_faulty (hlines : Text.lines bytes = above ++ line :: below)
    (habove : ∀ l ∈ above, ∃ said?, Says l said?) (hf : Faulty (above.length + 1) line messages) :
    ∃ e, readAll (.bytes bytes) = .error e ∧ e.chain = messages := by
  obtain ⟨said, hsaid⟩ := exists_said habove
  rw [Nat.add_comm] at hf
  obtain ⟨e, he, hchain⟩ := hf.readFrom_cons (below.map Source.readLine)
  refine ⟨e, ?_, hchain⟩
  rw [readAll, Source.lines, hlines, List.map_append, List.map_cons, readFrom_of_said hsaid, he]
  rfl

end Unmask.Frame
