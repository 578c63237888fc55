import Mathlib.Tactic.Lemma
import Unmask.Render.Trace

/-!
Stack traces with a limit against the same traces without one. Each frame has a line of its own,
whatever stands around it; the limit takes lines away at the end and puts one line in their place,
and there is no such line if nothing is taken.
-/

namespace Unmask.Render

variable {t : Table} {l : Layout} {f : Frame}

/-! ### One frame -/

lemma method_of_decode {s : Signature} (h : Descriptor.decode f.descriptor = .ok s) :
    method t l f = .ok (signature t l f.className f.methodName s) := by
  rw [method, h]
  rfl

lemma method_of_error {e : Descriptor.Error} (h : Descriptor.decode f.descriptor = .error e) :
    method t l f = .error e := by
  rw [method, h]
  rfl

end Unmask.Render
