import Mathlib.Tactic.Lemma
import Unmask.Text.Blank

/-!
The words of a text, between the white space in it. A text has just one list of words, and it is
found by splitting at white space.
-/

namespace Unmask.Text

/-- A text that is a word by itself. -/
structure IsWord (w : Text) : Prop where
  ne_nil : w ≠ []
  free : ∀ c ∈ w, isBlank c = false

instance (w : Text) : Decidable (IsWord w) :=
  decidable_of_iff (w ≠ [] ∧ w.any isBlank = false)
    ⟨fun ⟨hne, hfree⟩ => ⟨hne, by simpa using hfree⟩,
      fun ⟨hne, hfree⟩ => ⟨hne, by simpa using hfree⟩⟩

variable {s t v w : Text} {c : Char}

lemma words_nil : words [] = [] := by
  rw [words, List.splitOnP_nil]
  rfl

/-- Where there is white space no word goes on. -/
lemma words_append_cons (hc : isBlank c = true) (s t : Text) :
    words (s ++ c :: t) = words s ++ words t := by
  rw [words, List.splitOnP_append_cons s t hc, List.filter_append]
  rfl

lemma words_cons (hc : isBlank c = true) (t : Text) : words (c :: t) = words t := by
  rw [← List.nil_append (c :: t), words_append_cons hc, words_nil, List.nil_append]

lemma words_of_blanks (h : ∀ c ∈ s, isBlank c = true) : words s = [] := by
  induction s with
  | nil => exact words_nil
  | cons c s ih =>
    rw [words_cons (h c List.mem_cons_self)]
    exact ih fun d hd => h d (List.mem_cons_of_mem c hd)

namespace IsWord

lemma words_eq (h : IsWord w) : words w = [w] := by
  rw [words, List.splitOnP_eq_singleton h.free]
  simp [h.ne_nil]

lemma append (hv : IsWord v) (hw : ∀ c ∈ w, isBlank c = false) : IsWord (v ++ w) where
  ne_nil := List.append_ne_nil_of_left_ne_nil hv.ne_nil w
  free c hc := (List.mem_append.1 hc).elim (hv.free c) (hw c)

lemma not_mem (h : IsWord w) (hc : isBlank c = true) : c ∉ w := fun hm => by
  rw [h.free c hm] at hc
  cases hc

lemma of_subset (h : IsWord v) (hw : w ≠ []) (hsub : w ⊆ v) : IsWord w where
  ne_nil := hw
  free c hc := h.free c (hsub hc)

end IsWord

/-! ### Words apart -/

/-- The text has these words, in order. Behind a word it ends or there is white space. -/
inductive Spaced : Text → List Text → Prop
  | nil : Spaced [] []
  | blank {c s ws} (hc : isBlank c = true) (rest : Spaced s ws) : Spaced (c :: s) ws
  | word {w s ws} (hw : IsWord w) (stop : ∀ c, s.head? = some c → isBlank c = true)
    (rest : Spaced s ws) : Spaced (w ++ s) (w :: ws)

variable {ws : List Text}

lemma Spaced.words_eq (h : Spaced s ws) : words s = ws := by
  induction h with
  | nil => exact words_nil
  | blank hc _ ih => rw [words_cons hc, ih]
  | @word w s ws hw stop _ ih =>
    rcases s with _ | ⟨c, s⟩
    · rw [words_nil] at ih
      rw [List.append_nil, hw.words_eq, ih]
    · have hc := stop c rfl
      rw [words_cons hc] at ih
      rw [words_append_cons hc, hw.words_eq, ih]
      rfl

lemma Spaced.isWord (h : Spaced s ws) (hw : w ∈ ws) : IsWord w := by
  induction h with
  | nil => cases hw
  | blank _ _ ih => exact ih hw
  | word hv _ _ ih =>
    rcases List.mem_cons.1 hw with rfl | hw
    · exact hv
    · exact ih hw

/-- In front of a word a character makes it longer, and else it is a word by itself. -/
lemma Spaced.exists_cons (hc : isBlank c = false) (h : Spaced s ws) :
    ∃ ws', Spaced (c :: s) ws' := by
  have hword : IsWord [c] := ⟨List.cons_ne_nil c [], by simpa using hc⟩
  cases h with
  | nil => exact ⟨[[c]], .word hword (fun d hd => by cases hd) .nil⟩
  | @blank b s _ hb rest =>
    refine ⟨[c] :: ws, .word (w := [c]) hword (fun d hd => ?_) (.blank hb rest)⟩
    cases hd
    exact hb
  | @word w s ws hw stop rest =>
    have hmore : IsWord (c :: w) := hword.append hw.free
    exact ⟨(c :: w) :: ws, .word hmore stop rest⟩

lemma exists_spaced (s : Text) : ∃ ws, Spaced s ws := by
  induction s with
  | nil => exact ⟨[], .nil⟩
  | cons c s ih =>
    obtain ⟨ws, hws⟩ := ih
    rcases hc : isBlank c with _ | _
    · exact hws.exists_cons hc
    · exact ⟨ws, .blank hc hws⟩

theorem words_eq_iff : words s = ws ↔ Spaced s ws := by
  constructor
  · rintro rfl
    obtain ⟨ws, hws⟩ := exists_spaced s
    rwa [hws.words_eq]
  · exact Spaced.words_eq

end Unmask.Text
