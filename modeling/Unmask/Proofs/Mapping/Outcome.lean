import Unmask.Proofs.Mapping.Progress
import Unmask.Proofs.Mapping.Reading

/-!
What becomes of a mapping file: a table if all its lines can be used, else the fault of the first
line that cannot.
-/

namespace Unmask.Mapping

variable {bytes : List UInt8} {packages : Bool} {es : List Entry} {above : Option Nat}

lemma entries_bytes (bytes : List UInt8) :
    entries (.bytes bytes) = entriesFrom 1 none (fileLines bytes) := rfl

lemma Reads.read_eq (h : Reads (fileLines bytes) es above) (packages : Bool) :
    (read packages (.bytes bytes)).2 = .ok (Progress.after packages es).table := by
  rw [read, entries_bytes, h.entriesFrom_eq]
  rfl

/-- No report is made but those on entries. -/
lemma reports_read (packages : Bool) (s : Source) :
    reports (read packages s).1 = reports (Progress.run packages {} (entries s).1).2 := by
  unfold read
  rcases entries s with ⟨es, _ | e⟩
  · show reports (_ ++ [_]) = _
    rw [reports_append]
    exact List.append_nil _
  · rfl

lemma Reads.reports_read (h : Reads (fileLines bytes) es above) (packages : Bool) :
    reports (read packages (.bytes bytes)).1 = reports (Progress.run packages {} es).2 := by
  rw [Mapping.reports_read, entries_bytes, h.entriesFrom_eq]

/-- A line that cannot be used ends the reading, whatever follows it. -/
lemma Reads.read_stop {before more : Lines} {x : Except ReadFault Text} {e : LoadError}
    (h : Reads before es above) (hx : Part (before.length + 1) above x (.error e))
    (hls : fileLines bytes = before ++ x :: more) (packages : Bool) :
    read packages (.bytes bytes) = ((Progress.run packages {} es).2, .error e) := by
  rw [read, entries_bytes, hls, h.entriesFrom_stop hx more]

/-- A file gives a table just if all its lines can be used. -/
theorem read_eq_ok_iff {t : Table} : (read packages (.bytes bytes)).2 = .ok t ↔
    ∃ es above, Reads (fileLines bytes) es above ∧ t = (Progress.after packages es).table := by
  refine ⟨fun ht => ?_, ?_⟩
  · rcases reads_or_stops (fileLines bytes) with
      ⟨es, above, h⟩ | ⟨before, x, more, es, above, e, hls, h, hx⟩
    · rw [h.read_eq] at ht
      exact ⟨es, above, h, (Except.ok.inj ht).symm⟩
    · rw [h.read_stop hx hls] at ht
      cases ht
  · rintro ⟨es, above, h, rfl⟩
    exact h.read_eq packages

end Unmask.Mapping
