import Mathlib.Data.Nat.Find
import Mathlib.Tactic.Lemma

/-!
Answers that the first line of a list gives that has anything to say, as lines are added at the
end. The lines may be those of a file or whatever else comes one after the other.
-/

namespace Unmask.Mapping

variable {α β : Type}

/-- The answer is what the first line says that says anything. -/
structure Answers (answer : Option α) (Says : Nat → α → Prop) : Prop where
  some_iff : ∀ a, answer = some a ↔ ∃ i, Says i a ∧ ∀ j < i, ∀ b, ¬Says j b
  none_iff : answer = none ↔ ∀ i a, ¬Says i a

/-- What a line says does not depend on the lines below it. -/
structure Settled (Says : List β → Nat → α → Prop) : Prop where
  append : ∀ {ls more i a}, i < ls.length → (Says (ls ++ more) i a ↔ Says ls i a)
  lt : ∀ {ls i a}, Says ls i a → i < ls.length

/-- If any line says something, one is the first to. -/
lemma answers_of_some_iff {answer : Option α} {Says : Nat → α → Prop}
    (h : ∀ a, answer = some a ↔ ∃ i, Says i a ∧ ∀ j < i, ∀ b, ¬Says j b) :
    Answers answer Says := by
  classical
  refine ⟨h, fun hnone i a hi => ?_, fun hall => ?_⟩
  · have hex : ∃ i, ∃ a, Says i a := ⟨i, a, hi⟩
    obtain ⟨b, hb⟩ := Nat.find_spec hex
    have hsome := (h b).2 ⟨_, hb, fun j hj c hc => Nat.find_min hex hj ⟨c, hc⟩⟩
    rw [hnone] at hsome
    cases hsome
  · by_contra hne
    obtain ⟨a, ha⟩ := Option.ne_none_iff_exists'.1 hne
    obtain ⟨i, hi, -⟩ := (h a).1 ha
    exact hall i a hi

lemma answers_none {Says : Nat → α → Prop} (h : ∀ i a, ¬Says i a) : Answers none Says :=
  answers_of_some_iff fun a =>
    ⟨fun he => (by cases he), fun ⟨i, hi, _⟩ => absurd hi (h i a)⟩

section Snoc

variable {Says : List β → Nat → α → Prop} {ls : List β} {x : β} {answer new : Option α} {i : Nat}
  {a : α}

lemma lt_concat_cases (h : i < (ls ++ [x]).length) : i < ls.length ∨ i = ls.length := by
  rw [List.length_append, List.length_singleton] at h
  omega

lemma Settled.concat_cases (hs : Settled Says) (hi : Says (ls ++ [x]) i a) :
    Says ls i a ∨ i = ls.length :=
  (lt_concat_cases (hs.lt hi)).imp_left fun h => (hs.append h).1 hi

/-- Where there was no answer yet, the further line is heard. -/
lemma Answers.snoc_none (hs : Settled Says) (h : Answers none (Says ls))
    (hn : ∀ a, new = some a ↔ Says (ls ++ [x]) ls.length a) : Answers new (Says (ls ++ [x])) := by
  have last {i a} (hi : Says (ls ++ [x]) i a) : i = ls.length :=
    (hs.concat_cases hi).resolve_left (h.none_iff.1 rfl i a)
  refine answers_of_some_iff fun a => ⟨fun ha => ⟨ls.length, (hn a).1 ha, fun j hj b hb => ?_⟩, ?_⟩
  · exact absurd (last hb) (by omega)
  · rintro ⟨i, hi, -⟩
    obtain rfl := last hi
    exact (hn a).2 hi

/-- An answer that was given stays. -/
lemma Answers.snoc_some (hs : Settled Says) (h : Answers (some a) (Says ls)) :
    Answers (some a) (Says (ls ++ [x])) := by
  obtain ⟨i, hi, hfirst⟩ := (h.some_iff a).1 rfl
  have hlt := hs.lt hi
  refine answers_of_some_iff fun b => ⟨fun hb => ?_, fun ⟨k, hk, hmin⟩ => ?_⟩
  · obtain rfl := Option.some.inj hb
    refine ⟨i, (hs.append hlt).2 hi, fun j hj b hb => ?_⟩
    exact hfirst j hj b ((hs.append (by omega)).1 hb)
  · have hle : k ≤ i := by
      by_contra hgt
      exact hmin i (by omega) a ((hs.append hlt).2 hi)
    refine (h.some_iff b).2 ⟨k, (hs.append (by omega)).1 hk, fun j hj c hc => ?_⟩
    exact hmin j hj c ((hs.append (by omega)).2 hc)

/-- A further line is heard only if there was no answer yet. -/
lemma Answers.snoc (hs : Settled Says) (h : Answers answer (Says ls))
    (hn : ∀ a, new = some a ↔ Says (ls ++ [x]) ls.length a) :
    Answers (answer.or new) (Says (ls ++ [x])) := by
  rcases answer with _ | a
  · rw [Option.none_or]
    exact h.snoc_none hs hn
  · rw [Option.some_or]
    exact h.snoc_some hs

/-- A further line that says nothing leaves the answer. -/
lemma Answers.pass (hs : Settled Says) (h : Answers answer (Says ls))
    (hn : ∀ a, ¬Says (ls ++ [x]) ls.length a) : Answers answer (Says (ls ++ [x])) := by
  rw [← Option.or_none (o := answer)]
  exact h.snoc hs fun a => ⟨fun he => (by cases he), fun ha => absurd ha (hn a)⟩

end Snoc

/-- Where some lines are not heard, the answer is the same just if the first to say anything was
heard, or the first that was heard says the same. -/
lemma Answers.eq_iff {Says : Nat → α → Prop} {Unheard : Nat → Prop} {answer answer' : Option α}
    (h : Answers answer Says) (h' : Answers answer' fun i a => ¬Unheard i ∧ Says i a) :
    answer' = answer ↔ ∀ i a, Unheard i → Says i a → (∀ j < i, ∀ b, ¬Says j b) →
      ∃ k, (¬Unheard k ∧ Says k a) ∧ ∀ j < k, ∀ b, ¬(¬Unheard j ∧ Says j b) := by
  refine ⟨?_, fun hall => ?_⟩
  · rintro rfl i a - hi hfirst
    exact (h'.some_iff a).1 ((h.some_iff a).2 ⟨i, hi, hfirst⟩)
  · rcases answer with _ | a
    · exact h'.none_iff.2 fun i a hi => h.none_iff.1 rfl i a hi.2
    · obtain ⟨i, hi, hfirst⟩ := (h.some_iff a).1 rfl
      rw [h'.some_iff a]
      by_cases hu : Unheard i
      · exact hall i a hu hi hfirst
      · exact ⟨i, ⟨hu, hi⟩, fun j hj b hb => hfirst j hj b hb.2⟩

end Unmask.Mapping
