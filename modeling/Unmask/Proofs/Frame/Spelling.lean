import Unmask.Frame
import Unmask.Proofs.Text.Words

/-!
The two ways to write a frame, and that just these are read.
-/

namespace Unmask.Frame

/-- The text is a frame in three words or in a single one. In the latter the class ends at the last
dot before the first `(`, and the descriptor begins there. -/
inductive Spells : Text → Frame → Prop
  | apart {s c m d} (h : Text.words s = [c, m, d]) : Spells s ⟨c, m, d⟩
  | joined {s c m r} (h : Text.words s = [c ++ '.' :: m ++ '(' :: r]) (hc : c ≠ []) (hm : m ≠ [])
      (hopen : '(' ∉ c ++ '.' :: m) (hdot : '.' ∉ m) : Spells s ⟨c, m, '(' :: r⟩

variable {s c m r : Text} {f : Frame}

lemma ofJoined_append (hc : c ≠ []) (hm : m ≠ []) (hopen : '(' ∉ c ++ '.' :: m) (hdot : '.' ∉ m)
    (r : Text) : ofJoined (c ++ '.' :: m ++ '(' :: r) = .ok ⟨c, m, '(' :: r⟩ := by
  rw [ofJoined, Text.cutFirst_append r hopen]
  simp only [Text.cutLast_append c hdot]
  exact if_neg (not_or.2 ⟨hc, hm⟩)

lemma of_ofJoined (h : ofJoined s = .ok f) :
    ∃ r, s = f.className ++ '.' :: f.methodName ++ '(' :: r ∧ f.descriptor = '(' :: r ∧
      f.className ≠ [] ∧ f.methodName ≠ [] ∧ '(' ∉ f.className ++ '.' :: f.methodName ∧
      '.' ∉ f.methodName := by
  unfold ofJoined at h
  rcases hcut : Text.cutFirst '(' s with _ | ⟨names, r⟩
  · rw [hcut] at h
    cases h
  rw [hcut] at h
  rcases hnames : Text.cutLast '.' names with _ | ⟨c, m⟩
  · simp only [hnames] at h
    cases h
  simp only [hnames] at h
  split at h
  · cases h
  · next hne =>
    cases h
    rw [not_or] at hne
    obtain ⟨rfl, hopen⟩ := Text.eq_of_cutFirst hcut
    obtain ⟨rfl, hdot⟩ := Text.eq_of_cutLast hnames
    exact ⟨r, rfl, rfl, hne.1, hne.2, hopen, hdot⟩

/-- **Reading a frame.** A text is read as the one frame that it spells. -/
theorem parse_eq_ok_iff : parse s = .ok f ↔ Spells s f := by
  constructor
  · intro h
    unfold parse at h
    rcases hof : ofWords (Text.words s) with e | g
    · rw [hof] at h
      cases h
    rw [hof] at h
    cases h
    unfold ofWords at hof
    split at hof
    · next hw =>
      cases hof
      exact .apart hw
    · next joined hw =>
      obtain ⟨r, rfl, hr, hc, hm, hopen, hdot⟩ := of_ofJoined hof
      obtain ⟨c, m, d⟩ := f
      obtain rfl : d = '(' :: r := hr
      exact .joined hw hc hm hopen hdot
    · cases hof
  · intro h
    rw [parse]
    cases h with
    | apart h => rw [h]; rfl
    | joined h hc hm hopen hdot =>
      rw [h, ofWords, ofJoined_append hc hm hopen hdot]
      rfl

end Unmask.Frame
