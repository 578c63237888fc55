import Unmask.Proofs.Mapping.Calls
import Unmask.Proofs.Mapping.Duplicate

/-!
Packages are derived beside everything else. Whether they are or not, a file is read alike but for
the packages of its table, and those come of the class lines whose two names both have a package.
-/

namespace Unmask

/-- The name has the package `p`, which ends in front of its last `/`. -/
def Name.InPackage (name p : Text) : Prop := ∃ simple, name = p ++ '/' :: simple ∧ '/' ∉ simple

lemma Name.package?_eq_some_iff {name p : Text} :
    Name.package? name = some p ↔ Name.InPackage name p := by
  rw [Name.package?, Option.map_eq_some_iff]
  constructor
  · rintro ⟨⟨a, simple⟩, hc, rfl⟩
    exact ⟨simple, Text.eq_of_cutLast hc⟩
  · rintro ⟨simple, rfl, hn⟩
    exact ⟨(p, simple), Text.cutLast_append p hn, rfl⟩

def Table.withoutPackages (t : Table) : Table := { t with packages := ∅ }

namespace Mapping

open Name

/-- Line `i` is a class line with an obfuscated name in the package `q` and a real name in the
package `x`. -/
def PackageAt (q : Text) (ls : Lines) (i : Nat) (x : Text) : Prop :=
  ∃ o b, ClassAt ls i o b ∧ InPackage (internal o) x ∧ InPackage (internal b) q

variable {packages : Bool} {ls : Lines} {es : List Entry} {above : Option Nat}

lemma saysPackage_iff {q x : Text} {i : Nat} :
    SaysPackage true q ls i x ↔ PackageAt q ls i x := by
  unfold SaysPackage PackageAt
  simp only [true_and, packagesOf?_eq_some_iff, package?_eq_some_iff]

/-! ### With packages and without -/

namespace Progress

/-- The same without packages. -/
def bare (p : Progress) : Progress := ⟨p.table.withoutPackages, p.owner⟩

lemma step_bare (packages : Bool) (p : Progress) (e : Entry) :
    (p.bare.step false e).1 = (p.step packages e).1.bare := by
  rcases e with ⟨n, c⟩ | ⟨n, c, o, b⟩ | ⟨d | d, m⟩
  · rfl
  · by_cases hb : internal b ∈ p.table.classes
    · have hbare : internal b ∈ p.bare.table.classes := hb
      rw [step_classLine_of_mem hb, step_classLine_of_mem hbare]
      rfl
    · have hbare : internal b ∉ p.bare.table.classes := hb
      rw [step_classLine_of_not_mem hb, step_classLine_of_not_mem hbare]
      rfl
  · rcases ho : p.owner with _ | o
    · have hbare : p.bare.owner = none := ho
      rw [step_member_of_none ho, step_member_of_none hbare]
    · have hbare : p.bare.owner = some o := ho
      rw [step_method_of_some ho, step_method_of_some hbare]
      rfl
  · rfl

theorem run_bare (packages : Bool) (p : Progress) (es : List Entry) :
    (run false p.bare es).1 = (run packages p es).1.bare := by
  induction es generalizing p with
  | nil => rfl
  | cons e es ih =>
    have hstep := step_bare packages p e
    have hrest := ih (p.step packages e).1
    rw [← hstep] at hrest
    exact hrest

/-- Deriving packages adds packages, and nothing else. -/
lemma after_false (packages : Bool) (es : List Entry) :
    after false es = (after packages es).bare := run_bare packages {} es

lemma packages_member (p : Progress) (member : Member) (m : Text) :
    (p.step packages (.member member m)).1.table.packages = p.table.packages := by
  rcases ho : p.owner with _ | o
  · rw [step_member_of_none ho]
  · rcases member with d | d
    · rw [step_method_of_some ho]
      rfl
    · rfl

lemma classes_member (p : Progress) (member : Member) (m : Text) :
    (p.step packages (.member member m)).1.table.classes = p.table.classes := by
  rcases ho : p.owner with _ | o
  · rw [step_member_of_none ho]
  · rcases member with d | d
    · rw [step_method_of_some ho]
      rfl
    · rfl

lemma packages_classLine (p : Progress) (n : Nat) (c o b : Text) :
    (p.step packages (.classLine n c o b)).1.table.packages =
      packagesAfter packages p.table o b := by
  by_cases hb : internal b ∈ p.table.classes
  · rw [step_classLine_of_mem hb]
  · rw [step_classLine_of_not_mem hb]

end Progress

/-! ### The packages of a file -/

/-- All class lines are heard about packages, duplicates too. -/
theorem Reads.answers_packages (h : Reads ls es above) (packages : Bool) (q : Text) :
    Answers (Progress.after packages es).table.packages[q]? (SaysPackage packages q ls) := by
  induction h with
  | nil =>
    have hempty : (Progress.after packages []).table.packages[q]? = none :=
      Std.ExtTreeMap.getElem?_empty
    rw [hempty]
    exact answers_none fun i a ⟨_, _, _, hc, _⟩ => absurd hc.lt (by simp)
  | @snoc ls es above x entry _ here ih =>
    -- only a class line says anything
    have pass (hc : ∀ o b, ¬ClassAt (ls ++ [x]) ls.length o b) :
        Answers (Progress.after packages es).table.packages[q]?
          (SaysPackage packages q (ls ++ [x])) :=
      ih.pass (settled_saysPackage packages q) fun _ ⟨_, o, b, hc', _⟩ => hc o b hc'
    cases here with
    | ignored hi =>
      rw [Option.toList_none, List.append_nil]
      exact pass fun o b => not_classAt_concat_of_ignored hi
    | orphan hi hd _ =>
      rw [Option.toList_some, Progress.after_snoc, Progress.step_orphan]
      exact pass fun o b => not_classAt_concat_of_indented hi hd
    | member hi hd _ _ =>
      rw [Option.toList_some, Progress.after_snoc, Progress.packages_member]
      exact pass fun o b => not_classAt_concat_of_indented hi hd
    | @classLine text o b hi hd hs =>
      have hc : ClassAt (ls ++ [.ok text]) ls.length o b := ⟨_, lineAt?_concat hi, hd, hs⟩
      rw [Option.toList_some, Progress.after_snoc, Progress.packages_classLine,
        getElem?_packagesAfter]
      exact ih.snoc (settled_saysPackage packages q) fun a => saysPackage_concat_iff hc

/-- Where all that is said is the same, that is the answer. -/
lemma Answers.eq_some_of_forall {α : Type} {answer : Option α} {Says : Nat → α → Prop} {a : α}
    (h : Answers answer Says) (hex : ∃ i, Says i a) (hall : ∀ i b, Says i b → b = a) :
    answer = some a := by
  obtain ⟨i, hi⟩ := hex
  have hne : answer ≠ none := fun hnone => h.none_iff.1 hnone i a hi
  obtain ⟨b, hb⟩ := Option.ne_none_iff_exists'.1 hne
  obtain ⟨j, hj, -⟩ := (h.some_iff b).1 hb
  rw [hb, hall j b hj]

/-- **Packages are derived beside all else.** A file is read with the same reports and to the same
end whether its packages are derived or not: to the same fault, or to tables that differ in their
packages only, of which the one has none. If they are derived, a package is mapped just if some
class line with an obfuscated name in it has a real name with a package, and if all such lines
agree on that package it is mapped to it. -/
theorem read_packages (bytes : List UInt8) :
    reports (read true (.bytes bytes)).1 = reports (read false (.bytes bytes)).1 ∧
    (read false (.bytes bytes)).2 = (read true (.bytes bytes)).2.map Table.withoutPackages ∧
    ∀ t, (read true (.bytes bytes)).2 = .ok t → ∀ p,
      (t.realPackage? p = none ↔ ∀ i x, ¬PackageAt (internal p) (fileLines bytes) i x) ∧
      ∀ x, (∃ i, PackageAt (internal p) (fileLines bytes) i x) →
        (∀ i y, PackageAt (internal p) (fileLines bytes) i y → y = x) →
          t.realPackage? p = some x := by
  refine ⟨?_, ?_, fun t ht p => ?_⟩
  · rw [reports_read, reports_read]
    exact Progress.reports_run_congr rfl true false _
  · rw [read_snd, read_snd]
    rcases (entries (.bytes bytes)).2 with _ | e
    · rw [Progress.after_false true]
      rfl
    · rfl
  · obtain ⟨es, above, hr, rfl⟩ := read_eq_ok_iff.1 ht
    have hanswers := hr.answers_packages true (internal p)
    simp only [← saysPackage_iff]
    exact ⟨hanswers.none_iff, fun x => hanswers.eq_some_of_forall⟩

/-- The obfuscated names of the first two lines share a package, and only the first has a real
name with one. The last line is the other way round. -/
def partlyPackagedFile : List UInt8 := Text.Utf8.encode
  "p.q.S -> a/b.c:\n  void f() -> x\nT -> a.b/d:\np.q.U -> e:\n".toList

theorem read_partlyPackagedFile_packages : ∃ t,
    (read true (.bytes partlyPackagedFile)).2 = .ok t ∧
    (read false (.bytes partlyPackagedFile)).2 = .ok t.withoutPackages ∧
    t.realPackage? "a.b".toList = some "p/q".toList ∧ t.realPackage? ['e'] = none ∧
    ∀ i x, ¬PackageAt ['e'] (fileLines partlyPackagedFile) i x := by
  have h : (read true (.bytes partlyPackagedFile)).2 =
      .ok ((read true (.bytes partlyPackagedFile)).2.toOption.getD {}) := by decide
  obtain ⟨-, hfalse, hpackages⟩ := read_packages partlyPackagedFile
  have hnone : ((read true (.bytes partlyPackagedFile)).2.toOption.getD {}).realPackage? ['e'] =
      none := by decide
  refine ⟨_, h, ?_, by decide, hnone, (hpackages _ h ['e']).1.1 hnone⟩
  rw [hfalse, h]
  rfl

end Mapping

end Unmask
