import Unmask.Proofs.CommandLine.Trace
import Unmask.Proofs.Mapping.Calls
import Unmask.Proofs.Mapping.Outcome
import Unmask.Proofs.Render.Unmapped

/-!
Mapping files that map nothing. Of a file with a fault no entry is kept, even of those above the
fault, and a file without class lines has none to keep. Either way all names are shown as they are.
-/

namespace Unmask

namespace Mapping

variable {packages : Bool} {bytes : List UInt8} {ls : Lines} {es : List Entry}
  {above : Option Nat}

/-- Without a class line nothing is taken in: what is indented is an orphan. -/
lemma Reads.after_of_no_class (h : Reads ls es above) (hn : ∀ i o b, ¬ClassAt ls i o b) :
    Progress.after packages es = {} := by
  induction h with
  | nil => rfl
  | @snoc ls es above x entry _ here ih =>
    have hbefore : Progress.after packages es = {} := ih fun i o b hc => hn i o b hc.append
    cases here with
    | ignored _ =>
      rw [Option.toList_none, List.append_nil, hbefore]
    | orphan _ _ _ =>
      rw [Option.toList_some, Progress.after_snoc, Progress.step_orphan, hbefore]
    | member _ _ _ _ =>
      rw [Option.toList_some, Progress.after_snoc, hbefore, Progress.step_member_of_none rfl]
    | classLine hi hd hs => exact (hn _ _ _ ⟨_, lineAt?_concat hi, hd, hs⟩).elim

lemma load_eq_empty (h : (∃ e, (read packages (.bytes bytes)).2 = .error e) ∨
    ∀ i o b, ¬ClassAt (fileLines bytes) i o b) : (load packages (.bytes bytes)).2 = {} := by
  rw [load_snd]
  rcases hr : (read packages (.bytes bytes)).2 with e | t
  · rfl
  · obtain ⟨es, above, hreads, rfl⟩ := read_eq_ok_iff.1 hr
    have hn := h.resolve_left fun ⟨e, he⟩ => by
      rw [hr] at he
      cases he
    exact congrArg Progress.table (hreads.after_of_no_class hn)

end Mapping

namespace CommandLine

open Mapping (ClassAt fileLines load read)

variable {open? : Opener} {stdin : Source} {s s' : Settings} {packages : Bool}
  {bytes : List UInt8}

/-- The mapping file is heard of in the table alone, and else in the log. -/
lemma run_congr_of_table (ht : s.table open? = s'.table open?) (hl : s.layout = s'.layout)
    (c : Command) :
    (run open? stdin s c).exitCode = (run open? stdin s' c).exitCode ∧
      (run open? stdin s c).stdout = (run open? stdin s' c).stdout := by
  rw [run_eq, run_eq, ht, hl]
  rcases (c.answer open? stdin (s'.table open?) s'.layout).2 with chain | text
  · simp only [and_self]
  · simp only [and_self]

lemma Settings.table_of_mapping {path : Text} (hs : s.mapping = some path)
    (hopen : open? path = .ok (.bytes bytes)) :
    s.table open? = (load s.packages (.bytes bytes)).2 := by
  rw [Settings.table, Settings.loaded, hs]
  show (Mapping.loadPath open? s.packages path).2 = _
  rw [Mapping.loadPath_snd, hopen]

/-- **Names as they are.** A mapping file that has a fault or no class line gives an empty table,
whatever else it says. So methods are shown as source code would declare them, with the names that
they came with, no constant has another form, no class is renamed, and all packages keep their
names. A run with the file writes what the run without it does, but for the log. -/
theorem unmapped_of_fault_or_no_class
    (h : (∃ e, (read packages (.bytes bytes)).2 = .error e) ∨
      ∀ i o b, ¬ClassAt (fileLines bytes) i o b) :
    (load packages (.bytes bytes)).2 = {} ∧
    (∀ c m sig, Render.signature (load packages (.bytes bytes)).2 {} c m sig =
      sig.returnType.display ++ ' ' :: Text.replace '/' '.' c ++ '.' :: m ++
        '(' :: List.intercalate [',', ' '] (sig.parameters.map JavaType.display) ++ [')']) ∧
    (∀ k, (load packages (.bytes bytes)).2.realConstant? k = none) ∧
    (∀ d r, (load packages (.bytes bytes)).2.classRenaming.descriptor d = .ok r → r = d) ∧
    (∀ p, Render.package (load packages (.bytes bytes)).2 p =
      if p = [] then "(default package)".toList else Text.replace '/' '.' p) ∧
    ∀ open? stdin s path, s.mapping = some path → s.packages = packages →
      open? path = .ok (.bytes bytes) → ∀ c,
        (run open? stdin s c).exitCode = (run open? stdin { s with mapping := none } c).exitCode ∧
        (run open? stdin s c).stdout = (run open? stdin { s with mapping := none } c).stdout := by
  have hload := Mapping.load_eq_empty h
  rw [hload]
  refine ⟨rfl, Render.signature_empty, Table.realConstant?_empty, fun d r =>
    Renaming.eq_of_descriptor Table.classRenaming_empty, Render.package_empty, ?_⟩
  rintro open? stdin s path hs rfl hopen c
  have htable : s.table open? = { s with mapping := none }.table open? := by
    rw [Settings.table_of_mapping hs hopen, hload]
    rfl
  exact run_congr_of_table htable rfl c

/-- The last of these lines has no arrow. -/
def brokenMapping : List UInt8 := Text.Utf8.encode "p.A -> a/b:\n  void f(int) -> x\nC\n".toList

theorem unmapped_brokenMapping :
    Render.signature (load true (.bytes brokenMapping)).2 {} "a/b".toList ['x']
        ⟨[.array (.object "a/b".toList), .primitive .int], .primitive .void⟩ =
      "void a.b.x(a.b[], int)".toList ∧
    (load true (.bytes brokenMapping)).2.realConstant? "a/b".toList = none ∧
    ∀ stdin c, (run (fun _ => .ok (.bytes brokenMapping)) stdin
        { mapping := some ['m'], packages := true } c).stdout =
      (run (fun _ => .ok (.bytes brokenMapping)) stdin { packages := true } c).stdout := by
  have hfault : (read true (.bytes brokenMapping)).2 =
      .error ⟨3, none, .malformed (.noArrow 3 ['C'])⟩ := by decide +kernel
  obtain ⟨-, hsignature, hconstant, -, -, hrun⟩ := unmapped_of_fault_or_no_class (.inl ⟨_, hfault⟩)
  refine ⟨(hsignature _ _ _).trans (by decide), hconstant _, fun stdin c => ?_⟩
  exact (hrun _ stdin _ ['m'] rfl rfl rfl c).2

end CommandLine

end Unmask
