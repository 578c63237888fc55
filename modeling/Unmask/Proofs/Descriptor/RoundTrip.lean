import Mathlib.Tactic.Lemma
import Unmask.Descriptor.Reader

/-!
Decoding against writing. A text decodes to a signature exactly if it is the descriptor of the
signature and the signature is well formed: its arrays are within the limit, its class names can be
told from what follows them, and `void` is nothing but a return type.
-/

namespace Unmask

namespace JavaType

/-- The class that the type is or holds, if any. -/
def className? : JavaType → Option Text
  | primitive _ => none
  | object name => some name
  | array element => element.className?

/-- A type that its descriptor determines. -/
structure WellFormed (t : JavaType) : Prop where
  levels_le : t.levels ≤ Descriptor.maxLevels
  className : ∀ name ∈ t.className?, name ≠ [] ∧ ';' ∉ name
  void : t.innermost = .primitive .void → t.levels = 0

instance (t : JavaType) : Decidable t.WellFormed :=
  decidable_of_iff
    (t.levels ≤ Descriptor.maxLevels ∧ (∀ name ∈ t.className?, name ≠ [] ∧ ';' ∉ name) ∧
      (t.innermost = .primitive .void → t.levels = 0))
    ⟨fun ⟨h1, h2, h3⟩ => ⟨h1, h2, h3⟩, fun ⟨h1, h2, h3⟩ => ⟨h1, h2, h3⟩⟩

lemma wellFormed_primitive (p : Primitive) : (primitive p).WellFormed :=
  ⟨by simp [levels], by simp [className?], by simp [levels]⟩

lemma wellFormed_object_iff {name : Text} :
    (object name).WellFormed ↔ name ≠ [] ∧ ';' ∉ name :=
  ⟨fun h => h.className name rfl, fun h => ⟨by simp [levels], by simpa [className?] using h, by
    simp [innermost]⟩⟩

lemma isVoid_iff {t : JavaType} : t.isVoid ↔ t.innermost = .primitive .void ∧ t.levels = 0 := by
  cases t with
  | primitive p => cases p <;> simp [isVoid, innermost, levels]
  | object name => simp [isVoid, innermost]
  | array element => simp [isVoid, levels]

lemma wellFormed_array_iff {t : JavaType} :
    (array t).WellFormed ↔ t.WellFormed ∧ t.isVoid = false ∧ t.levels < Descriptor.maxLevels := by
  constructor
  · rintro ⟨hl, hc, hv⟩
    have hne : t.innermost ≠ .primitive .void := fun h => by simpa [levels] using hv h
    refine ⟨⟨?_, hc, fun h => absurd h hne⟩, ?_, hl⟩
    · simp only [levels] at hl; omega
    · rw [← Bool.not_eq_true, isVoid_iff]; exact fun h => hne h.1
  · rintro ⟨⟨-, hc, hv⟩, hn, hl⟩
    refine ⟨hl, hc, fun h => ?_⟩
    rw [← Bool.not_eq_true, isVoid_iff] at hn
    exact absurd ⟨h, hv h⟩ hn

/-- Only a class name brings characters of its own into a descriptor. -/
lemma mem_descriptor_iff {c : Char} {t : JavaType} (hc : Primitive.ofCode? c = none)
    (h : c ∉ ['[', 'L', ';']) : c ∈ t.descriptor ↔ ∃ name ∈ t.className?, c ∈ name := by
  simp only [List.mem_cons, List.not_mem_nil, or_false, not_or] at h
  obtain ⟨h1, h2, h3⟩ := h
  induction t with
  | primitive p =>
    have hp : c ≠ p.code := by rintro rfl; simp [Primitive.ofCode?_code] at hc
    simp [descriptor, className?, hp]
  | object name => simp [descriptor, className?, h2, h3]
  | array element ih => simp [descriptor, className?, h1, ih]

end JavaType

/-- A signature that its descriptor determines. The last `)` has to close the parameter list. -/
structure Signature.WellFormed (s : Signature) : Prop where
  parameters : ∀ t ∈ s.parameters, t.WellFormed ∧ t.innermost ≠ .primitive .void
  returnType : s.returnType.WellFormed
  close : ∀ name ∈ s.returnType.className?, ')' ∉ name

instance (s : Signature) : Decidable s.WellFormed :=
  decidable_of_iff
    ((∀ t ∈ s.parameters, t.WellFormed ∧ t.innermost ≠ .primitive .void) ∧
      s.returnType.WellFormed ∧ ∀ name ∈ s.returnType.className?, ')' ∉ name)
    ⟨fun ⟨h1, h2, h3⟩ => ⟨h1, h2, h3⟩, fun ⟨h1, h2, h3⟩ => ⟨h1, h2, h3⟩⟩

namespace Descriptor

/-! ### One type -/

lemma wellFormed_of_readType {levels : Nat} {s rest : Text} {t : JavaType}
    (h : readType levels s = .ok (t, rest)) (hl : levels ≤ maxLevels) :
    t.WellFormed ∧ levels + t.levels ≤ maxLevels := by
  fun_induction readType levels s generalizing t with
  | case1 => cases h
  | case2 => cases h
  | case3 => cases h
  | case4 => cases h
  | case5 levels r hlt element rest' he hv ih =>
    cases h
    obtain ⟨hw, hle⟩ := ih he (by omega)
    refine ⟨JavaType.wellFormed_array_iff.2 ⟨hw, by simpa using hv, by omega⟩, ?_⟩
    simp only [JavaType.levels]; omega
  | case6 => cases h
  | case7 => cases h
  | case8 levels r name rest' hc hn _ =>
    cases h
    exact ⟨JavaType.wellFormed_object_iff.2 ⟨hn, (Text.eq_of_cutFirst hc).2⟩, hl⟩
  | case9 => cases h
  | case10 levels c r _ _ p hp =>
    cases h
    exact ⟨JavaType.wellFormed_primitive p, hl⟩

lemma readType_descriptor_append {levels : Nat} {t : JavaType} (rest : Text) (h : t.WellFormed)
    (hl : levels + t.levels ≤ maxLevels) :
    readType levels (t.descriptor ++ rest) = .ok (t, rest) := by
  induction t generalizing levels with
  | primitive p =>
    have h1 : p.code ≠ '[' := by cases p <;> decide
    have h2 : p.code ≠ 'L' := by cases p <;> decide
    simp [JavaType.descriptor, readType, h1, h2, Primitive.ofCode?_code]
  | object name =>
    obtain ⟨hn, hs⟩ := JavaType.wellFormed_object_iff.1 h
    simp [JavaType.descriptor, readType, Text.cutFirst_append rest hs, hn]
  | array element ih =>
    obtain ⟨hw, hv, -⟩ := JavaType.wellFormed_array_iff.1 h
    simp only [JavaType.levels] at hl
    have hlt : ¬maxLevels ≤ levels := by omega
    have hr : readType (levels + 1) (element.descriptor ++ rest) = .ok (element, rest) :=
      ih hw (by omega)
    simp [JavaType.descriptor, readType, hlt, hr, hv]

/-- What is taken off the front is the descriptor of a well-formed type, and any such descriptor
is taken whatever follows it. -/
theorem readType_eq_ok_iff {levels : Nat} {s rest : Text} {t : JavaType} (hl : levels ≤ maxLevels) :
    readType levels s = .ok (t, rest) ↔
      s = t.descriptor ++ rest ∧ t.WellFormed ∧ levels + t.levels ≤ maxLevels := by
  constructor
  · exact fun h => ⟨eq_descriptor_of_readType h, wellFormed_of_readType h hl⟩
  · rintro ⟨rfl, hw, hle⟩
    exact readType_descriptor_append rest hw hle

theorem readType_zero_eq_ok_iff {s rest : Text} {t : JavaType} :
    readType 0 s = .ok (t, rest) ↔ s = t.descriptor ++ rest ∧ t.WellFormed := by
  rw [readType_eq_ok_iff (Nat.zero_le _), Nat.zero_add]
  exact ⟨fun ⟨h, hw, _⟩ => ⟨h, hw⟩, fun ⟨h, hw⟩ => ⟨h, hw, hw.levels_le⟩⟩

/-- A type read by itself is all of the text. -/
theorem readWhole_eq_ok_iff {s : Text} {t : JavaType} :
    readWhole s = .ok t ↔ t.descriptor = s ∧ t.WellFormed := by
  constructor
  · intro h
    rw [readWhole] at h
    split at h
    · cases h
    · next u rest hr =>
      split at h
      · next he =>
        cases h
        obtain ⟨hs, hw⟩ := readType_zero_eq_ok_iff.1 hr
        exact ⟨by rw [hs, he, List.append_nil], hw⟩
      · cases h
  · rintro ⟨rfl, hw⟩
    have hr : readType 0 t.descriptor = .ok (t, []) :=
      readType_zero_eq_ok_iff.2 ⟨(List.append_nil _).symm, hw⟩
    simp [readWhole, hr]

theorem decodeType_eq_ok_iff {d : Text} {t : JavaType} :
    decodeType d = .ok t ↔ t.descriptor = d ∧ t.WellFormed := by
  rw [← readWhole_eq_ok_iff, decodeType]
  rcases readWhole d with f | u
  · exact ⟨fun h => (by cases h), fun h => (by cases h)⟩
  · exact ⟨fun h => (by cases h; rfl), fun h => (by cases h; rfl)⟩

/-! ### A list of parameters -/

lemma octets_descriptor_ne_zero (t : JavaType) : Text.octets t.descriptor ≠ 0 := by
  obtain ⟨c, r, h⟩ := List.exists_cons_of_ne_nil t.descriptor_ne_nil
  rw [h, Text.octets_cons]
  have := c.utf8Size_pos
  omega

/-- A type that may be a parameter. -/
abbrev IsParameter (t : JavaType) : Prop := t.WellFormed ∧ t.innermost ≠ .primitive .void

lemma isParameter_iff {t : JavaType} : IsParameter t ↔ t.WellFormed ∧ t.isVoid = false := by
  rw [← Bool.not_eq_true, JavaType.isVoid_iff]
  exact ⟨fun ⟨hw, h⟩ => ⟨hw, fun hv => h hv.1⟩, fun ⟨hw, h⟩ => ⟨hw, fun hv => h ⟨hv, hw.void hv⟩⟩⟩

lemma sound_of_readParameters {s : Text} {ts : List JavaType} (h : readParameters s = .ok ts) :
    ts.flatMap JavaType.descriptor = s ∧ ∀ t ∈ ts, IsParameter t := by
  fun_induction readParameters s generalizing ts
  case case1 => cases h; simp
  case case6 t rest hr _ _ hv us hus ih =>
    cases h
    obtain ⟨hrest, hus⟩ := ih hus
    obtain ⟨hs, hw⟩ := readType_zero_eq_ok_iff.1 hr
    refine ⟨by rw [List.flatMap_cons, hrest, hs], ?_⟩
    rw [List.forall_mem_cons]
    exact ⟨isParameter_iff.2 ⟨hw, by simpa using hv⟩, hus⟩
  all_goals cases h

/-- Every type takes an octet or more, so progress is always made. -/
lemma readParameters_of_ne_nil {s : Text} (h : s ≠ []) :
    readParameters s =
      match readType 0 s with
      | .error f => .error f
      | .ok (t, rest) =>
        if t.isVoid then .error ⟨0, .misplacedVoid⟩
        else
          match readParameters rest with
          | .error f => .error (f.shift (Text.octets t.descriptor))
          | .ok ts => .ok (t :: ts) := by
  rw [readParameters, if_neg h]
  split
  · next f hr => rw [hr]
  · next t rest hr =>
    rw [hr]
    rcases hp : readParameters rest with f | ts
    · simp only [octets_descriptor_ne_zero, if_false, hp]
    · simp only [octets_descriptor_ne_zero, if_false, hp]

/-- A parameter is read whatever follows it. -/
lemma readParameters_descriptor_append {t : JavaType} (h : IsParameter t) (rest : Text) :
    readParameters (t.descriptor ++ rest) =
      match readParameters rest with
      | .error f => .error (f.shift (Text.octets t.descriptor))
      | .ok ts => .ok (t :: ts) := by
  obtain ⟨hw, hv⟩ := isParameter_iff.1 h
  have hr : readType 0 (t.descriptor ++ rest) = .ok (t, rest) :=
    readType_zero_eq_ok_iff.2 ⟨rfl, hw⟩
  have hne : t.descriptor ++ rest ≠ [] := by simp [t.descriptor_ne_nil]
  rw [readParameters_of_ne_nil hne, hr]
  simp only [hv, Bool.false_eq_true, if_false]

lemma readParameters_flatMap {ts : List JavaType} (h : ∀ t ∈ ts, IsParameter t) :
    readParameters (ts.flatMap JavaType.descriptor) = .ok ts := by
  induction ts with
  | nil => rw [List.flatMap_nil, readParameters]; rfl
  | cons t ts ih =>
    rw [List.forall_mem_cons] at h
    rw [List.flatMap_cons, readParameters_descriptor_append h.1, ih h.2]

theorem readParameters_eq_ok_iff {s : Text} {ts : List JavaType} :
    readParameters s = .ok ts ↔
      ts.flatMap JavaType.descriptor = s ∧ ∀ t ∈ ts, IsParameter t := by
  constructor
  · exact sound_of_readParameters
  · rintro ⟨rfl, h⟩
    exact readParameters_flatMap h

/-! ### Signatures -/

lemma close_not_mem_descriptor_iff {t : JavaType} :
    ')' ∉ t.descriptor ↔ ∀ name ∈ t.className?, ')' ∉ name := by
  rw [JavaType.mem_descriptor_iff rfl (by decide)]
  simp

lemma wellFormed_iff {s : Signature} :
    s.WellFormed ↔ (∀ t ∈ s.parameters, IsParameter t) ∧ s.returnType.WellFormed ∧
      ')' ∉ s.returnType.descriptor := by
  rw [close_not_mem_descriptor_iff]
  exact ⟨fun ⟨h1, h2, h3⟩ => ⟨h1, h2, h3⟩, fun ⟨h1, h2, h3⟩ => ⟨h1, h2, h3⟩⟩

/-- The parameters end at the last `)`, and what follows is the return type. -/
lemma readSignature_append (parameters : Text) {result : Text} (h : ')' ∉ result) :
    readSignature ('(' :: parameters ++ ')' :: result) =
      match readParameters parameters with
      | .error f => .error (f.shift 1)
      | .ok ts =>
        match readWhole result with
        | .error f => .error (f.shift (Text.octets parameters + 2))
        | .ok t => .ok ⟨ts, t⟩ := by
  have hcut := Text.cutLast_append parameters h
  rcases hp : readParameters parameters with f | ts
  · simp only [List.cons_append, readSignature, hcut, hp]
  · rcases hr : readWhole result with f | t
    · simp only [List.cons_append, readSignature, hcut, hp, hr]
    · simp only [List.cons_append, readSignature, hcut, hp, hr]

theorem readSignature_eq_ok_iff {d : Text} {s : Signature} :
    readSignature d = .ok s ↔ s.descriptor = d ∧ s.WellFormed := by
  rw [wellFormed_iff]
  constructor
  · intro h
    rw [readSignature.eq_def] at h
    split at h
    · next body =>
      split at h
      · cases h
      · next parameters result hc =>
        split at h
        · cases h
        · next ts hts =>
          split at h
          · cases h
          · next t ht =>
            cases h
            obtain ⟨hb, hclose⟩ := Text.eq_of_cutLast hc
            obtain ⟨hp, hps⟩ := readParameters_eq_ok_iff.1 hts
            obtain ⟨rfl, hw⟩ := readWhole_eq_ok_iff.1 ht
            exact ⟨by rw [Signature.descriptor, hp, hb]; rfl, hps, hw, hclose⟩
    · cases h
  · rintro ⟨rfl, hps, hw, hclose⟩
    have hp := readParameters_eq_ok_iff.2 ⟨rfl, hps⟩
    have ht := readWhole_eq_ok_iff.2 ⟨rfl, hw⟩
    rw [Signature.descriptor, readSignature_append _ hclose, hp]
    simp only [ht]

theorem decode_eq_ok_iff {d : Text} {s : Signature} :
    decode d = .ok s ↔ s.descriptor = d ∧ s.WellFormed := by
  rw [← readSignature_eq_ok_iff, decode]
  rcases readSignature d with f | t
  · exact ⟨fun h => (by cases h), fun h => (by cases h)⟩
  · exact ⟨fun h => (by cases h; rfl), fun h => (by cases h; rfl)⟩

/-- **Decoding and writing are inverse.** A text decodes to a signature exactly if it is the
descriptor of the signature and the signature is well formed. So what decodes is what well-formed
signatures are written as, no two texts decode to the same signature, and a signature comes back
from its descriptor exactly if it is well formed. -/
theorem decode_inverse_descriptor :
    (∀ d s, decode d = .ok s ↔ s.descriptor = d ∧ s.WellFormed) ∧
    (∀ d, (∃ s, decode d = .ok s) ↔ ∃ s : Signature, s.WellFormed ∧ s.descriptor = d) ∧
    (∀ d d' s, decode d = .ok s → decode d' = .ok s → d = d') ∧
    ∀ s : Signature, decode s.descriptor = .ok s ↔ s.WellFormed := by
  refine ⟨fun _ _ => decode_eq_ok_iff, fun d => ?_, fun d d' s h h' => ?_, fun s => ?_⟩
  · simp only [decode_eq_ok_iff, and_comm]
  · rw [← (decode_eq_ok_iff.1 h).1, (decode_eq_ok_iff.1 h').1]
  · rw [decode_eq_ok_iff]
    exact and_iff_right rfl

/-- A class name among the parameters may hold `)`. -/
example : decode "(La)(b;[[J)LT;".toList =
    .ok ⟨[.object "a)(b".toList, .array (.array (.primitive .long))], .object ['T']⟩ :=
  decode_eq_ok_iff.2 ⟨by decide, by decide⟩

end Descriptor

end Unmask
