import Mathlib.Data.List.Forall2
import Unmask.Proofs.Descriptor.RoundTrip
import Unmask.Proofs.Descriptor.Scan

/-!
Renaming the text of a descriptor against renaming what it describes. The scan knows nothing of the
grammar and takes every `L` outside of a name for the start of one, but in a text that decodes the
names it finds are just those of the types.
-/

namespace Unmask

namespace JavaType

variable (f : Text → Text) (t : JavaType)

@[simp] lemma levels_mapNames : (t.mapNames f).levels = t.levels := by
  induction t with
  | primitive p => rfl
  | object name => rfl
  | array element ih => simp [mapNames, levels, ih]

@[simp] lemma innermost_mapNames : (t.mapNames f).innermost = t.innermost.mapNames f := by
  induction t with
  | primitive p => rfl
  | object name => rfl
  | array element ih => simpa [mapNames, innermost] using ih

@[simp] lemma className?_mapNames : (t.mapNames f).className? = t.className?.map f := by
  induction t with
  | primitive p => rfl
  | object name => rfl
  | array element ih => simpa [mapNames, className?] using ih

lemma mapNames_eq_primitive_iff {p : Primitive} :
    t.mapNames f = primitive p ↔ t = primitive p := by
  cases t <;> simp [mapNames]

/-- The types differ in nothing but the class that they are or hold, if any. -/
structure SameShape (t u : JavaType) : Prop where
  levels : u.levels = t.levels
  primitive : ∀ p, u.innermost = .primitive p ↔ t.innermost = .primitive p

lemma sameShape_mapNames : SameShape t (t.mapNames f) where
  levels := levels_mapNames f t
  primitive p := by rw [innermost_mapNames, mapNames_eq_primitive_iff]

variable {f t}

lemma WellFormed.mapNames (h : t.WellFormed)
    (hf : ∀ name ∈ t.className?, f name ≠ [] ∧ ';' ∉ f name) : (t.mapNames f).WellFormed where
  levels_le := by
    rw [levels_mapNames]
    exact h.levels_le
  className := by
    intro name hname
    rw [className?_mapNames] at hname
    obtain ⟨old, hold, rfl⟩ := Option.map_eq_some_iff.1 hname
    exact hf old hold
  void := by
    rw [innermost_mapNames, mapNames_eq_primitive_iff, levels_mapNames]
    exact h.void

end JavaType

namespace Signature

/-- The class names in the signature, in order. -/
def classNames (s : Signature) : List Text :=
  (s.parameters ++ [s.returnType]).filterMap JavaType.className?

/-- As many parameters, each of the same shape, and so the return type. -/
structure SameShape (s u : Signature) : Prop where
  parameters : List.Forall₂ JavaType.SameShape s.parameters u.parameters
  returnType : s.returnType.SameShape u.returnType

lemma sameShape_mapNames (f : Text → Text) (s : Signature) : SameShape s (s.mapNames f) where
  parameters := by
    show List.Forall₂ JavaType.SameShape s.parameters (s.parameters.map _)
    rw [List.forall₂_map_right_iff, List.forall₂_same]
    exact fun t _ => JavaType.sameShape_mapNames f t
  returnType := JavaType.sameShape_mapNames f s.returnType

lemma mem_classNames_of_parameter {s : Signature} {t : JavaType} {name : Text}
    (ht : t ∈ s.parameters) (h : name ∈ t.className?) : name ∈ s.classNames :=
  List.mem_filterMap.2 ⟨t, List.mem_append_left _ ht, h⟩

lemma mem_classNames_of_returnType {s : Signature} {name : Text}
    (h : name ∈ s.returnType.className?) : name ∈ s.classNames :=
  List.mem_filterMap.2 ⟨s.returnType, by simp, h⟩

lemma WellFormed.classNames {s : Signature} (h : s.WellFormed) :
    ∀ name ∈ s.classNames, name ≠ [] ∧ ';' ∉ name := by
  intro name hname
  obtain ⟨t, ht, hn⟩ := List.mem_filterMap.1 hname
  rcases List.mem_append.1 ht with ht | ht
  · exact (h.parameters t ht).1.className name hn
  · obtain rfl := List.mem_singleton.1 ht
    exact h.returnType.className name hn

lemma WellFormed.mapNames {f : Text → Text} {s : Signature} (h : s.WellFormed)
    (hf : ∀ name ∈ s.classNames, f name ≠ [] ∧ ';' ∉ f name)
    (hr : ∀ name ∈ s.returnType.className?, ')' ∉ f name) : (s.mapNames f).WellFormed where
  parameters := by
    intro u hu
    obtain ⟨t, ht, rfl⟩ := List.mem_map.1 hu
    obtain ⟨hw, hv⟩ := h.parameters t ht
    refine ⟨hw.mapNames fun name hname => hf name (mem_classNames_of_parameter ht hname), ?_⟩
    rwa [JavaType.innermost_mapNames, ne_eq, JavaType.mapNames_eq_primitive_iff]
  returnType :=
    h.returnType.mapNames fun name hname => hf name (mem_classNames_of_returnType hname)
  close := by
    intro name hname
    have hmap : (s.mapNames f).returnType.className? = s.returnType.className?.map f :=
      JavaType.className?_mapNames f s.returnType
    rw [hmap] at hname
    obtain ⟨old, hold, rfl⟩ := Option.map_eq_some_iff.1 hname
    exact hr old hold

end Signature

namespace Renaming

open Descriptor

variable (f : Renaming)

/-! ### The names in a descriptor -/

lemma renames_descriptor {t : JavaType} (h : t.WellFormed) :
    Renames f t.descriptor (t.mapNames f.apply).descriptor := by
  induction t with
  | primitive p =>
    have hp : p.code ≠ 'L' := by cases p <;> decide
    exact .letter hp .nil
  | object name => exact .name (JavaType.wellFormed_object_iff.1 h).2 .nil
  | array element ih => exact .letter (by decide) (ih (JavaType.wellFormed_array_iff.1 h).1)

lemma renames_parameters {ts : List JavaType} (h : ∀ t ∈ ts, t.WellFormed) :
    Renames f (ts.flatMap JavaType.descriptor)
      ((ts.map (JavaType.mapNames f.apply)).flatMap JavaType.descriptor) := by
  induction ts with
  | nil => exact .nil
  | cons t ts ih =>
    rw [List.forall_mem_cons] at h
    rw [List.map_cons, List.flatMap_cons, List.flatMap_cons]
    exact (renames_descriptor f h.1).append (ih h.2)

lemma scan_descriptor {t : JavaType} (h : t.WellFormed) :
    f.scan none t.descriptor = some (t.mapNames f.apply).descriptor :=
  (renames_descriptor f h).scan_eq

lemma scan_signature {s : Signature} (h : s.WellFormed) :
    f.scan none s.descriptor = some (s.mapNames f.apply).descriptor := by
  have hps := renames_parameters f fun t ht => (h.parameters t ht).1
  have hr := renames_descriptor f h.returnType
  exact (Renames.letter (by decide) (hps.append (.letter (by decide) hr))).scan_eq

/-! ### Decoding what was renamed -/

/-- The new names of the classes in the signature can stand in a descriptor, and the one in the
return type leaves the last `)` where it is. -/
structure Fits (f : Renaming) (s : Signature) : Prop where
  name : ∀ x ∈ s.classNames, ∀ y ∈ f x, y ≠ [] ∧ ';' ∉ y
  close : ∀ x ∈ s.returnType.className?, ∀ y ∈ f x, ')' ∉ y

instance (s : Signature) : Decidable (f.Fits s) :=
  decidable_of_iff
    ((∀ x ∈ s.classNames, ∀ y ∈ f x, y ≠ [] ∧ ';' ∉ y) ∧
      ∀ x ∈ s.returnType.className?, ∀ y ∈ f x, ')' ∉ y)
    ⟨fun ⟨h1, h2⟩ => ⟨h1, h2⟩, fun ⟨h1, h2⟩ => ⟨h1, h2⟩⟩

variable {f}

lemma wellFormed_mapNames {t : JavaType} (ht : t.WellFormed)
    (hf : ∀ x ∈ t.className?, ∀ y ∈ f x, y ≠ [] ∧ ';' ∉ y) : (t.mapNames f.apply).WellFormed :=
  ht.mapNames fun x hx => apply_of_forall (ht.className x hx) (hf x hx)

lemma Fits.wellFormed {s : Signature} (h : f.Fits s) (hs : s.WellFormed) :
    (s.mapNames f.apply).WellFormed := by
  refine hs.mapNames (fun x hx => ?_) fun x hx => ?_
  · exact apply_of_forall (hs.classNames x hx) (h.name x hx)
  · exact apply_of_forall (hs.close x hx) (h.close x hx)

variable (f) in
/-- **Renaming a text that decodes.** It gives the descriptor of the signature, or of the type,
with every class name replaced and all else as it was. If the new names fit, that decodes
again. -/
theorem descriptor_of_decode (d : Text) :
    (∀ s, decode d = .ok s →
      f.descriptor d = .ok (s.mapNames f.apply).descriptor ∧ s.SameShape (s.mapNames f.apply) ∧
      (f.Fits s → decode (s.mapNames f.apply).descriptor = .ok (s.mapNames f.apply))) ∧
    ∀ t, decodeType d = .ok t →
      f.descriptor d = .ok (t.mapNames f.apply).descriptor ∧ t.SameShape (t.mapNames f.apply) ∧
      ((∀ x ∈ t.className?, ∀ y ∈ f x, y ≠ [] ∧ ';' ∉ y) →
        decodeType (t.mapNames f.apply).descriptor = .ok (t.mapNames f.apply)) := by
  constructor
  · intro s hs
    obtain ⟨rfl, hw⟩ := decode_eq_ok_iff.1 hs
    refine ⟨f.descriptor_eq_ok (f.scan_signature hw), s.sameShape_mapNames f.apply, fun hf => ?_⟩
    exact decode_eq_ok_iff.2 ⟨rfl, hf.wellFormed hw⟩
  · intro t ht
    obtain ⟨rfl, hw⟩ := decodeType_eq_ok_iff.1 ht
    refine ⟨f.descriptor_eq_ok (f.scan_descriptor hw), t.sameShape_mapNames f.apply, fun hf => ?_⟩
    exact decodeType_eq_ok_iff.2 ⟨rfl, wellFormed_mapNames hw hf⟩

/-- One class gets a new name, and the other keeps one that holds an `L`. -/
def threadRenaming : Renaming := fun x => if x = ['a'] then some "java/lang/Thread".toList else none

theorem descriptor_threadRenaming :
    decode "(J[[La;LIL;)La;".toList =
      .ok ⟨[.primitive .long, .array (.array (.object ['a'])), .object ['I', 'L']],
        .object ['a']⟩ ∧
    threadRenaming.descriptor "(J[[La;LIL;)La;".toList =
      .ok "(J[[Ljava/lang/Thread;LIL;)Ljava/lang/Thread;".toList ∧
    decode "(J[[Ljava/lang/Thread;LIL;)Ljava/lang/Thread;".toList =
      .ok ⟨[.primitive .long, .array (.array (.object "java/lang/Thread".toList)),
        .object ['I', 'L']], .object "java/lang/Thread".toList⟩ ∧
    decodeType "[La;".toList = .ok (.array (.object ['a'])) ∧
    threadRenaming.descriptor "[La;".toList = .ok "[Ljava/lang/Thread;".toList ∧
    decodeType "[Ljava/lang/Thread;".toList =
      .ok (.array (.object "java/lang/Thread".toList)) := by
  have hs : decode "(J[[La;LIL;)La;".toList =
      .ok ⟨[.primitive .long, .array (.array (.object ['a'])), .object ['I', 'L']],
        .object ['a']⟩ := decode_eq_ok_iff.2 ⟨by decide, by decide⟩
  have ht : decodeType "[La;".toList = .ok (.array (.object ['a'])) :=
    decodeType_eq_ok_iff.2 ⟨by decide, by decide⟩
  obtain ⟨hd, -, hdecode⟩ := (threadRenaming.descriptor_of_decode _).1 _ hs
  obtain ⟨hd', -, hdecode'⟩ := (threadRenaming.descriptor_of_decode _).2 _ ht
  exact ⟨hs, hd, hdecode (by decide), ht, hd', hdecode' (by decide)⟩

end Renaming

end Unmask
