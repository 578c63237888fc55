import Unmask.Proofs.Descriptor.Fault
import Unmask.Proofs.Descriptor.Renamed
import Unmask.Proofs.Table.History

/-!
Constants as arrays, classes and packages. A constant is an array just if it spells out one of a
class that is mapped; whatever else starts with an array marker is looked up like any other name.
-/

namespace Unmask

namespace JavaType

open Descriptor (markers maxLevels)

lemma descriptor_arrays (t : JavaType) (n : Nat) :
    (t.arrays n).descriptor = markers n ++ t.descriptor := by
  induction n with
  | zero => rfl
  | succ n ih =>
    rw [arrays, descriptor, ih, markers, markers, List.replicate_succ, List.cons_append]

lemma className?_arrays (t : JavaType) (n : Nat) : (t.arrays n).className? = t.className? := by
  induction n with
  | zero => rfl
  | succ n ih => exact ih

lemma mapNames_arrays (f : Text → Text) (t : JavaType) (n : Nat) :
    (t.arrays n).mapNames f = (t.mapNames f).arrays n := by
  induction n with
  | zero => rfl
  | succ n ih => rw [arrays, mapNames, ih, arrays]

lemma wellFormed_arrays_object_iff {x : Text} {n : Nat} :
    ((object x).arrays n).WellFormed ↔ n ≤ maxLevels ∧ x ≠ [] ∧ ';' ∉ x := by
  have hlevels : ((object x).arrays n).levels = n := by simp [levels]
  have hclass : ((object x).arrays n).className? = some x := className?_arrays _ n
  constructor
  · intro h
    have hle := h.levels_le
    rw [hlevels] at hle
    exact ⟨hle, h.className x hclass⟩
  · rintro ⟨hle, hx⟩
    refine ⟨by rwa [hlevels], fun name hname => ?_, fun hvoid => ?_⟩
    · rw [hclass] at hname
      cases hname
      exact hx
    · rw [innermost_arrays] at hvoid
      cases hvoid

end JavaType

open JavaType (object)

namespace Descriptor

/-- The markers in front of a text are no more than those in front of another character. -/
lemma le_of_markers_append {c : Char} {s r : Text} {m n : Nat} (hc : c ≠ '[')
    (h : markers m ++ s = markers n ++ c :: r) : m ≤ n := by
  by_contra hlt
  obtain ⟨i, rfl⟩ : ∃ i, m = n + (i + 1) := ⟨m - n - 1, by omega⟩
  rw [markers, List.replicate_add, ← markers, List.append_assoc] at h
  exact hc (List.cons.inj (List.append_cancel_left h)).1.symm

lemma decodeType_eq_arrays_iff {k x : Text} {n : Nat} :
    decodeType k = .ok ((object x).arrays n) ↔
      k = markers n ++ 'L' :: x ++ [';'] ∧ n ≤ maxLevels ∧ x ≠ [] ∧ ';' ∉ x := by
  have hd : ((object x).arrays n).descriptor = markers n ++ 'L' :: x ++ [';'] := by
    rw [JavaType.descriptor_arrays, JavaType.descriptor, List.append_assoc]
  rw [decodeType_eq_ok_iff, JavaType.wellFormed_arrays_object_iff, hd, eq_comm]

end Descriptor

namespace Table

open Descriptor (markers decodeType)

/-- The constant is an array of a class that is mapped, as the class is spelled there. -/
structure IsArrayOf (t : Table) (constant : Text) (n : Nat) (name real : Text) : Prop where
  eq : constant = markers n ++ 'L' :: name ++ [';']
  pos : 1 ≤ n
  le : n ≤ 255
  ne_nil : name ≠ []
  free : ';' ∉ name
  mapped : t.classes[name]? = some real

variable {t : Table} {k x o : Text} {n : Nat}

lemma IsArrayOf.decodeType (h : t.IsArrayOf k n x o) :
    Descriptor.decodeType k = .ok ((object x).arrays n) :=
  Descriptor.decodeType_eq_arrays_iff.2 ⟨h.eq, h.le, h.ne_nil, h.free⟩

lemma isMappedArray_iff_decodes :
    t.isMappedArray k = true ↔ k.head? = some '[' ∧
      ∃ type x, Descriptor.decodeType k = .ok type ∧ type.innermost = object x ∧ x ∈ t.classes := by
  constructor
  · intro h
    unfold isMappedArray at h
    split at h
    · split at h
      · next type htype =>
        split at h
        · next x hx => exact ⟨rfl, type, x, htype, hx, of_decide_eq_true h⟩
        · cases h
      · cases h
    · cases h
  · rintro ⟨hhead, type, x, htype, hx, hmem⟩
    obtain ⟨r, rfl⟩ := List.head?_eq_some_iff.1 hhead
    simp only [isMappedArray, htype, hx]
    exact decide_eq_true hmem

lemma IsArrayOf.head?_eq (h : t.IsArrayOf k n x o) : k.head? = some '[' := by
  obtain ⟨m, rfl⟩ : ∃ m, n = m + 1 := ⟨n - 1, by have := h.pos; omega⟩
  rw [h.eq]
  rfl

theorem isMappedArray_iff : t.isMappedArray k = true ↔ ∃ n x o, t.IsArrayOf k n x o := by
  rw [isMappedArray_iff_decodes]
  constructor
  · rintro ⟨hhead, type, x, htype, hx, hmem⟩
    rw [← type.arrays_innermost, hx, Descriptor.decodeType_eq_arrays_iff] at htype
    obtain ⟨heq, hle, hne, hfree⟩ := htype
    refine ⟨type.levels, x, t.classes[x], heq, ?_, hle, hne, hfree,
      Std.ExtTreeMap.getElem?_eq_some_getElem hmem⟩
    -- without a marker the descriptor would start with the letter of a class
    by_contra hpos
    have hzero : type.levels = 0 := by omega
    rw [heq, hzero] at hhead
    cases hhead
  · rintro ⟨n, x, o, h⟩
    have hmem : x ∈ t.classes := by
      rw [← Std.ExtTreeMap.isSome_getElem?_iff_mem, h.mapped]
      rfl
    exact ⟨h.head?_eq, _, x, h.decodeType, JavaType.innermost_arrays _ n, hmem⟩

/-! ### The three ways -/

lemma IsArrayOf.descriptor_eq (h : t.IsArrayOf k n x o) :
    t.classRenaming.descriptor k = .ok (markers n ++ 'L' :: o ++ [';']) := by
  obtain ⟨hk, hw⟩ := Descriptor.decodeType_eq_ok_iff.1 h.decodeType
  have hname : t.classRenaming.apply x = o := by
    rw [Renaming.apply, classRenaming, h.mapped, Option.getD_some]
  refine Renaming.descriptor_eq_ok _ ?_
  rw [← hk, Renaming.scan_descriptor _ hw, JavaType.mapNames_arrays, JavaType.mapNames, hname,
    JavaType.descriptor_arrays, JavaType.descriptor, List.append_assoc]

lemma IsArrayOf.realConstant?_eq (h : t.IsArrayOf k n x o) :
    t.realConstant? k = some (markers n ++ 'L' :: o ++ [';']) := by
  rw [realConstant?, if_pos (isMappedArray_iff.2 ⟨n, x, o, h⟩), h.descriptor_eq]
  rfl

lemma realConstant?_of_not_array (h : ∀ n x o, ¬t.IsArrayOf k n x o) :
    t.realConstant? k = t.classes[k]?.or t.packages[k]? := by
  rw [realConstant?, if_neg]
  rw [isMappedArray_iff]
  rintro ⟨n, x, o, harray⟩
  exact h n x o harray

/-! ### What is no array of a mapped class -/

lemma IsArrayOf.ne_primitive (h : t.IsArrayOf k n x o) (m : Nat) (p : Primitive) :
    k ≠ markers m ++ [p.code] := by
  intro hk
  have hlast : k.getLast? = some ';' := by
    rw [h.eq]
    exact List.getLast?_concat
  rw [hk, List.getLast?_concat] at hlast
  cases p <;> cases hlast

lemma IsArrayOf.mapped_of_eq {m : Nat} {y : Text} (h : t.IsArrayOf k n x o)
    (hk : k = markers m ++ 'L' :: y ++ [';']) : t.classes[y]? = some o := by
  have heq : markers n ++ 'L' :: (x ++ [';']) = markers m ++ 'L' :: (y ++ [';']) := by
    simpa only [List.append_assoc, List.cons_append] using h.eq.symm.trans hk
  have hne : 'L' ≠ '[' := by decide
  obtain rfl : n = m := Nat.le_antisymm (Descriptor.le_of_markers_append hne heq)
    (Descriptor.le_of_markers_append hne heq.symm)
  obtain rfl : x = y := List.append_cancel_right (List.cons.inj (List.append_cancel_left heq)).2
  exact h.mapped

lemma IsArrayOf.levels_le {m : Nat} {s : Text} (h : t.IsArrayOf k n x o) (hk : k = markers m ++ s) :
    m ≤ 255 := by
  have heq : markers m ++ s = markers n ++ 'L' :: (x ++ [';']) := by
    rw [← hk, h.eq, List.append_assoc, List.cons_append]
  exact Nat.le_trans (Descriptor.le_of_markers_append (by decide) heq) h.le

/-- The constant is looked up as a class, and else as a package. -/
def FallsThrough (t : Table) (k : Text) : Prop :=
  t.realConstant? k = t.classes[k]?.or t.packages[k]?

/-- **What a constant stands for**, in every table. An array of a mapped class stands for as many
arrays of the real class, and its descriptor can always be renamed. Anything else stands for what
it is mapped to as a class, or else as a package, and if it is in internal form that is the real
name of the class or of the package. This goes for arrays of a primitive type and of classes that
are not mapped, for what is malformed and for more than 255 levels. -/
theorem realConstant?_three_ways (t : Table) (k : Text) :
    (∀ n x o, t.IsArrayOf k n x o →
      t.classRenaming.descriptor k = .ok (markers n ++ 'L' :: o ++ [';']) ∧
      t.realConstant? k = some (markers n ++ 'L' :: o ++ [';'])) ∧
    ((∀ n x o, ¬t.IsArrayOf k n x o) →
      t.FallsThrough k ∧ ('.' ∉ k → t.realConstant? k = (t.realClass? k).or (t.realPackage? k))) ∧
    (∀ n (p : Primitive), k = markers n ++ [p.code] → t.FallsThrough k) ∧
    (∀ n x, t.classes[x]? = none → k = markers n ++ 'L' :: x ++ [';'] → t.FallsThrough k) ∧
    (∀ e, Descriptor.decodeType k = .error e → t.FallsThrough k) ∧
    ∀ n s, 255 < n → k = markers n ++ s → t.FallsThrough k := by
  refine ⟨fun n x o h => ⟨h.descriptor_eq, h.realConstant?_eq⟩, fun h => ?_, fun n p hk => ?_,
    fun n x hx hk => ?_, fun e he => ?_, fun n s hn hk => ?_⟩
  · have hfalls := realConstant?_of_not_array h
    refine ⟨hfalls, fun hdot => ?_⟩
    rw [hfalls, realClass?, realPackage?, Name.internal_eq_self hdot]
  · exact realConstant?_of_not_array fun m x o h => h.ne_primitive n p hk
  · refine realConstant?_of_not_array fun m y o h => ?_
    rw [h.mapped_of_eq hk] at hx
    cases hx
  · refine realConstant?_of_not_array fun n x o h => ?_
    rw [h.decodeType] at he
    cases he
  · exact realConstant?_of_not_array fun m x o h => absurd (h.levels_le hk) (by omega)

/-- A class and a package, and two classes with the names of arrays. -/
def crossed : Session :=
  .after [.addClass "x.B".toList ['a'], .addClass "y/Odd".toList "[La;".toList,
    .addClass "y/Ints".toList "[I".toList, .addPackage "p.q".toList ['q']]

theorem realConstant?_crossed :
    crossed.table.realConstant? "[La;".toList = some "[Lx/B;".toList ∧
    crossed.table.realConstant? "[[La;".toList = some "[[Lx/B;".toList ∧
    crossed.table.realConstant? "[I".toList = some "y/Ints".toList ∧
    crossed.table.realConstant? "[Lb;".toList = none ∧
    crossed.table.realConstant? "[La".toList = none ∧
    crossed.table.realConstant? ['q'] = some "p/q".toList := by
  have hsome : crossed.table.classes["a".toList]? = some "x/B".toList := by decide
  have harray (n) (hpos : 1 ≤ n) (hle : n ≤ 255) :
      crossed.table.IsArrayOf (markers n ++ "La;".toList) n ['a'] "x/B".toList :=
    ⟨by simp, hpos, hle, by decide, by decide, hsome⟩
  have hq : ∀ n x o, ¬crossed.table.IsArrayOf ['q'] n x o := by
    intro n x o h
    have hlast := congrArg List.getLast? h.eq
    rw [List.getLast?_concat] at hlast
    cases hlast
  have hopen : Descriptor.decodeType "[La".toList =
      .error ⟨"[La".toList, 1, .unterminatedClass⟩ := by rfl
  have hints := (realConstant?_three_ways crossed.table "[I".toList).2.2.1 1 .int rfl
  have hother := (realConstant?_three_ways crossed.table "[Lb;".toList).2.2.2.1 1 ['b']
    (by decide) rfl
  have hfault := (realConstant?_three_ways crossed.table "[La".toList).2.2.2.2.1 _ hopen
  have hpackage := ((realConstant?_three_ways crossed.table ['q']).2.1 hq).2 (by decide)
  refine ⟨?_, ?_, hints.trans (by decide), hother.trans (by decide), hfault.trans (by decide),
    hpackage.trans (by decide)⟩
  · exact ((realConstant?_three_ways _ _).1 _ _ _ (harray 1 (by decide) (by decide))).2
  · exact ((realConstant?_three_ways _ _).1 _ _ _ (harray 2 (by decide) (by decide))).2

end Table

end Unmask
