import Mathlib.Data.List.Induction
import Mathlib.Tactic.Lemma
import Unmask.Text.Lines

/-!
The lines of a file together with what ends them, and files with lines taken out. What is left is
read as the lines that are left.
-/

namespace Unmask

/-- The elements at the positions that are not dropped. -/
def keep {α : Type} (drop : Nat → Bool) (xs : List α) : List α :=
  (xs.zipIdx.filter fun p => !drop p.2).map Prod.fst

section Keep

variable {α β : Type} {drop : Nat → Bool}

lemma keep_concat (xs : List α) (x : α) :
    keep drop (xs ++ [x]) = keep drop xs ++ if drop xs.length then [] else [x] := by
  rcases h : drop xs.length with _ | _ <;> simp [keep, List.zipIdx_append, h]

lemma keep_map (f : α → β) (xs : List α) : keep drop (xs.map f) = (keep drop xs).map f := by
  induction xs using List.reverseRecOn with
  | nil => rfl
  | append_singleton xs x ih =>
    rw [List.map_append, List.map_singleton, keep_concat, keep_concat, List.length_map, ih,
      List.map_append]
    rcases drop xs.length with _ | _ <;> rfl

lemma keep_sublist (xs : List α) : (keep drop xs).Sublist xs := by
  have h := (List.filter_sublist (p := fun p : α × Nat => !drop p.2) (l := xs.zipIdx)).map Prod.fst
  rwa [List.zipIdx_map_fst] at h

lemma keep_cons (x : α) (xs : List α) :
    keep drop (x :: xs) =
      (if drop 0 then [] else [x]) ++ keep (fun i => drop (i + 1)) xs := by
  have hshift : (xs.zipIdx 1).filter (fun p => !drop p.2) =
      (xs.zipIdx.filter fun p => !drop (p.2 + 1)).map (Prod.map id (· + 1)) := by
    rw [List.zipIdx_succ, List.filter_map]
    rfl
  rw [keep, List.zipIdx_cons, List.filter_cons, Nat.zero_add, hshift]
  rcases drop 0 with _ | _ <;> simp [keep]

end Keep

namespace Text

/-- The lines with their line feeds. `seen` holds the octets of the current line, the latest
first. -/
def piecesFrom (seen : List UInt8) : List UInt8 → List (List UInt8)
  | [] => if seen.isEmpty then [] else [seen.reverse]
  | b :: r => if b = 0x0a then (b :: seen).reverse :: piecesFrom [] r else piecesFrom (b :: seen) r

def pieces (bytes : List UInt8) : List (List UInt8) := piecesFrom [] bytes

/-- The file without the lines at the positions that are dropped. -/
def removeLines (drop : Nat → Bool) (bytes : List UInt8) : List UInt8 :=
  (keep drop (pieces bytes)).flatten

/-- What is read of a line, of which `seen` holds the octets, the latest first. -/
def ended : List UInt8 → List UInt8
  | 0x0d :: line => line.reverse
  | line => line.reverse

/-- What may stand behind the only line of a file. -/
def lineEndings : List (List UInt8) := [[], [0x0a], [0x0d, 0x0a]]

/-- Pieces as they come from a file: only the last may go without a line feed. -/
inductive ArePieces : List (List UInt8) → Prop
  | nil : ArePieces []
  | last {body} (full : body ≠ []) (free : 0x0a ∉ body) : ArePieces [body]
  | cons {body ps} (free : 0x0a ∉ body) (rest : ArePieces ps) : ArePieces ((body ++ [0x0a]) :: ps)

/-- The line that is read of a piece. -/
def lineOf (piece : List UInt8) : List UInt8 :=
  match piece.reverse with
  | 0x0a :: seen => ended seen
  | seen => seen.reverse

lemma lineOf_of_free {body : List UInt8} (h : 0x0a ∉ body) : lineOf body = body := by
  unfold lineOf
  split
  · next seen he => exact absurd (List.mem_reverse.1 (he ▸ List.mem_cons_self)) h
  · exact List.reverse_reverse body

lemma lineOf_concat (body : List UInt8) : lineOf (body ++ [0x0a]) = ended body.reverse := by
  simp [lineOf]

lemma ArePieces.sublist {ps qs : List (List UInt8)} (h : ArePieces ps) (hs : qs.Sublist ps) :
    ArePieces qs := by
  induction h generalizing qs with
  | nil =>
    rw [List.sublist_nil.1 hs]
    exact .nil
  | last full free =>
    cases hs with
    | cons _ hs =>
      rw [List.sublist_nil.1 hs]
      exact .nil
    | cons_cons _ hs =>
      rw [List.sublist_nil.1 hs]
      exact .last full free
  | cons free _ ih =>
    cases hs with
    | cons _ hs => exact ih hs
    | cons_cons _ hs => exact .cons free (ih hs)

/-! ### Cutting a file -/

lemma arePieces_piecesFrom {seen bytes : List UInt8} (h : 0x0a ∉ seen) :
    ArePieces (piecesFrom seen bytes) := by
  induction bytes generalizing seen with
  | nil =>
    rw [piecesFrom]
    split
    · exact .nil
    · next hs => exact .last (by simpa using hs) (by simpa using h)
  | cons b r ih =>
    rw [piecesFrom]
    split
    · next hb =>
      rw [hb, List.reverse_cons]
      exact .cons (by simpa using h) (ih (by simp))
    · next hb => exact ih (by simp [h, Ne.symm hb])

lemma flatten_piecesFrom (seen bytes : List UInt8) :
    (piecesFrom seen bytes).flatten = seen.reverse ++ bytes := by
  induction bytes generalizing seen with
  | nil =>
    rcases seen with _ | ⟨s, seen⟩
    · rfl
    · simp [piecesFrom]
  | cons b r ih =>
    rw [piecesFrom]
    split
    · simp [ih]
    · simp [ih]

/-! ### Reading pieces -/

lemma linesFrom_cons (seen : List UInt8) (b : UInt8) (r : List UInt8) :
    linesFrom seen (b :: r) =
      if b = 0x0a then ended seen :: linesFrom [] r else linesFrom (b :: seen) r := by
  conv_lhs => unfold linesFrom
  rfl

lemma linesFrom_append_cons {body : List UInt8} (h : 0x0a ∉ body) (seen rest : List UInt8) :
    linesFrom seen (body ++ 0x0a :: rest) =
      ended (body.reverse ++ seen) :: linesFrom [] rest := by
  induction body generalizing seen with
  | nil =>
    rw [List.nil_append, linesFrom_cons, if_pos rfl]
    rfl
  | cons b body ih =>
    rw [List.mem_cons, not_or] at h
    rw [List.cons_append, linesFrom_cons, if_neg (Ne.symm h.1), ih h.2]
    simp

lemma linesFrom_of_free {body : List UInt8} (h : 0x0a ∉ body) (seen : List UInt8) :
    linesFrom seen body = if seen = [] ∧ body = [] then [] else [seen.reverse ++ body] := by
  induction body generalizing seen with
  | nil =>
    rcases seen with _ | ⟨s, seen⟩
    · rfl
    · simp [linesFrom]
  | cons b body ih =>
    rw [List.mem_cons, not_or] at h
    rw [linesFrom_cons, if_neg (Ne.symm h.1), ih h.2]
    simp

lemma ended_of_free {seen : List UInt8} (h : 0x0d ∉ seen) : ended seen = seen.reverse := by
  unfold ended
  split
  · exact absurd List.mem_cons_self h
  · rfl

lemma lines_append_ending {body ending : List UInt8} (hne : body ≠ []) (hfeed : 0x0a ∉ body)
    (hreturn : 0x0d ∉ body) (h : ending ∈ lineEndings) : lines (body ++ ending) = [body] := by
  have hended : ended body.reverse = body := by
    rw [ended_of_free fun hm => hreturn (List.mem_reverse.1 hm), List.reverse_reverse]
  simp only [lineEndings, List.mem_cons, List.not_mem_nil, or_false] at h
  rcases h with rfl | rfl | rfl
  · rw [List.append_nil, lines, linesFrom_of_free hfeed, if_neg fun he => hne he.2]
    rfl
  · rw [lines, linesFrom_append_cons hfeed, List.append_nil, hended]
    rfl
  · -- the carriage return is taken off again
    have hline : body ++ [0x0d, 0x0a] = (body ++ [0x0d]) ++ [0x0a] := by
      rw [List.append_assoc]
      rfl
    have hfree : 0x0a ∉ body ++ [0x0d] := by simpa using hfeed
    rw [hline, lines, linesFrom_append_cons hfree, List.append_nil, List.reverse_append]
    show [body.reverse.reverse] = [body]
    rw [List.reverse_reverse]

/-- Behind a line feed another file begins. -/
lemma linesFrom_append {bytes : List UInt8} (h : bytes.getLast? = some 0x0a)
    (seen rest : List UInt8) :
    linesFrom seen (bytes ++ rest) = linesFrom seen bytes ++ lines rest := by
  induction bytes generalizing seen with
  | nil => cases h
  | cons b r ih =>
    rw [List.cons_append, linesFrom_cons, linesFrom_cons]
    rcases r with _ | ⟨c, r⟩
    · obtain rfl : b = 0x0a := by simpa using h
      rfl
    · have hlast : (c :: r).getLast? = some 0x0a := by rwa [List.getLast?_cons_cons] at h
      split
      · rw [ih hlast, List.cons_append]
      · exact ih hlast _

lemma lines_flatten {parts : List (List UInt8)} (h : ∀ x ∈ parts, x.getLast? = some 0x0a) :
    lines parts.flatten = parts.flatMap lines := by
  induction parts with
  | nil => rfl
  | cons x parts ih =>
    have hx := h x List.mem_cons_self
    rw [List.flatten_cons, List.flatMap_cons, lines, linesFrom_append hx [], ← lines,
      ih fun y hy => h y (List.mem_cons_of_mem x hy)]

lemma ArePieces.lines_flatten {ps : List (List UInt8)} (h : ArePieces ps) :
    lines ps.flatten = ps.map lineOf := by
  induction h with
  | nil => rfl
  | last full free =>
    simp [lines, linesFrom_of_free free, full, lineOf_of_free free]
  | cons free _ ih =>
    rw [List.flatten_cons, List.append_assoc, List.singleton_append, lines,
      linesFrom_append_cons free, ← lines, ih, List.map_cons, lineOf_concat, List.append_nil]

lemma lines_eq (bytes : List UInt8) : lines bytes = (pieces bytes).map lineOf := by
  have h : ArePieces (pieces bytes) := arePieces_piecesFrom (by simp)
  rw [← h.lines_flatten, pieces, flatten_piecesFrom]
  rfl

/-- **Taking lines out.** A file without some of its lines has just the other lines. -/
theorem lines_removeLines (drop : Nat → Bool) (bytes : List UInt8) :
    lines (removeLines drop bytes) = keep drop (lines bytes) := by
  have h : ArePieces (pieces bytes) := arePieces_piecesFrom (by simp)
  calc lines (removeLines drop bytes)
      = (keep drop (pieces bytes)).map lineOf := (h.sublist (keep_sublist _)).lines_flatten
    _ = keep drop ((pieces bytes).map lineOf) := (keep_map _ _).symm
    _ = keep drop (lines bytes) := by rw [lines_eq]

end Text

end Unmask
