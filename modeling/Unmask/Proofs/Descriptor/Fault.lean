import Unmask.Proofs.Descriptor.RoundTrip

/-!
What is wrong with a text that does not decode. An error cuts the text in two: in front of it all
types are complete but the one that is at fault, and that one has shown nothing but array markers
so far; what the cause names stands right behind.
-/

namespace Unmask.Descriptor

/-! ### Faults of a text -/

def markers (n : Nat) : Text := List.replicate n '['

/-- A text that starts with no type: behind `front` it goes wrong. -/
inductive TypeFault : Text → Text → Cause → Prop
  | danglingArray {n} (pos : 0 < n) (le : n ≤ maxLevels) : TypeFault (markers n) [] .danglingArray
  | unterminatedClass {n rest} (le : n ≤ maxLevels) (unclosed : ';' ∉ rest) :
    TypeFault (markers n) ('L' :: rest) .unterminatedClass
  | emptyClassName {n rest} (le : n ≤ maxLevels) :
    TypeFault (markers n) ('L' :: ';' :: rest) .emptyClassName
  | unknownCode {n c rest} (le : n ≤ maxLevels) (marker : c ≠ '[') (object : c ≠ 'L')
    (primitive : ∀ p : Primitive, p.code ≠ c) :
    TypeFault (markers n) (c :: rest) (.unknownCode c)
  | misplacedVoid {n rest} (pos : 0 < n) (le : n ≤ maxLevels) :
    TypeFault (markers n) ('V' :: rest) .misplacedVoid
  | tooManyDimensions {rest} : TypeFault (markers maxLevels) ('[' :: rest) .tooManyDimensions

/-- A text that starts with no parameter. -/
inductive ParameterFault : Text → Text → Cause → Prop
  | type {front back cause} (fault : TypeFault front back cause) : ParameterFault front back cause
  | misplacedVoid {rest} : ParameterFault [] ('V' :: rest) .misplacedVoid

/-- A text that is no return type. -/
inductive ReturnFault : Text → Text → Cause → Prop
  | missingReturnType : ReturnFault [] [] .missingReturnType
  | type {front back cause} (fault : TypeFault front back cause) : ReturnFault front back cause
  | trailingInput {t : JavaType} {rest} (type : t.WellFormed) (more : rest ≠ []) :
    ReturnFault t.descriptor rest (.trailingInput rest)

/-- A text that is no descriptor of a method. A fault among the parameters has only parameters in
front of it, and a fault behind the last `)` all of them. -/
inductive SignatureFault : Text → Text → Cause → Prop
  | notOpened {d : Text} (first : d.head? ≠ some '(') : SignatureFault [] d .missingParameterList
  | notClosed {body} (close : ')' ∉ body) : SignatureFault ('(' :: body) [] .missingParameterList
  | parameter {ts : List JavaType} {front back result cause} (before : ∀ t ∈ ts, IsParameter t)
    (close : ')' ∉ result) (fault : ParameterFault front back cause) :
    SignatureFault ('(' :: ts.flatMap JavaType.descriptor ++ front) (back ++ ')' :: result) cause
  | returnType {ts : List JavaType} {front back cause} (parameters : ∀ t ∈ ts, IsParameter t)
    (close : ')' ∉ front ++ back) (fault : ReturnFault front back cause) :
    SignatureFault ('(' :: ts.flatMap JavaType.descriptor ++ ')' :: front) back cause

/-- The text is cut in two where the fault is, and `IsFault` tells of the two parts. -/
def FaultyBy (IsFault : Text → Text → Cause → Prop) (s : Text) (f : Fault) : Prop :=
  ∃ front back, s = front ++ back ∧ Text.octets front = f.offset ∧ IsFault front back f.cause

variable {levels n : Nat} {s front back rest : Text} {cause : Cause} {f : Fault}
  {ts : List JavaType} {t : JavaType}

/-! ### Offsets -/

@[simp] lemma octets_markers (n : Nat) : Text.octets (markers n) = n := by
  induction n with
  | zero => rfl
  | succ n ih =>
    rw [markers, List.replicate_succ, Text.octets_cons, ← markers, ih]
    exact Nat.add_comm 1 n

lemma octets_open (s : Text) : Text.octets ('(' :: s) = 1 + Text.octets s := rfl

lemma octets_close (s : Text) : Text.octets (')' :: s) = 1 + Text.octets s := rfl

lemma octets_parentheses (parameters result : Text) :
    Text.octets ('(' :: parameters ++ ')' :: result) =
      Text.octets parameters + 2 + Text.octets result := by
  rw [List.cons_append, octets_open, Text.octets_append, octets_close]
  omega

@[simp] lemma Fault.shift_zero (f : Fault) : f.shift 0 = f := by
  simp [Fault.shift]

@[simp] lemma Fault.shift_shift (m n : Nat) (f : Fault) :
    (f.shift n).shift m = f.shift (m + n) := by
  simp [Fault.shift, Nat.add_assoc]

/-! ### One type -/

lemma isVoid_arrays (t : JavaType) : (t.arrays n).isVoid = true ↔ n = 0 ∧ t.isVoid = true := by
  cases n with
  | zero => simp [JavaType.arrays]
  | succ n => simp [JavaType.arrays, JavaType.isVoid]

/-- The markers in front of a type are read one by one, and then the type, inside of so many more
arrays. -/
lemma readType_markers (h : levels + n ≤ maxLevels) (s : Text) :
    readType levels (markers n ++ s) =
      match readType (levels + n) s with
      | .error f => .error (f.shift n)
      | .ok (t, rest) =>
        if 0 < n ∧ t.isVoid then .error ⟨n, .misplacedVoid⟩ else .ok (t.arrays n, rest) := by
  induction n generalizing levels with
  | zero =>
    rcases hr : readType levels s with f | ⟨t, rest⟩ <;> simp [markers, JavaType.arrays, hr]
  | succ n ih =>
    have hlt : ¬maxLevels ≤ levels := by omega
    have hlevels : levels + 1 + n = levels + (n + 1) := by omega
    have hle : levels + 1 + n ≤ maxLevels := by omega
    have hrest := ih hle
    rw [hlevels] at hrest
    rw [markers, List.replicate_succ, List.cons_append, ← markers, readType, if_pos rfl,
      if_neg hlt, hrest]
    rcases readType (levels + (n + 1)) s with f | ⟨t, rest⟩
    · simp [Nat.add_comm 1 n]
    · rcases hv : t.isVoid with _ | _
      · have harrays : (t.arrays n).isVoid = false := by
          rw [← Bool.not_eq_true, isVoid_arrays]
          simp [hv]
        simp [hv, harrays, JavaType.arrays]
      · rcases Nat.eq_zero_or_pos n with rfl | hn
        · simp [JavaType.arrays, hv]
        · simp [hv, hn, Fault.shift, Nat.add_comm 1 n]

lemma readType_markers_of_error {c : Cause} (h : n ≤ maxLevels)
    (hr : readType n s = .error ⟨0, c⟩) : readType 0 (markers n ++ s) = .error ⟨n, c⟩ := by
  have hle : 0 + n ≤ maxLevels := by omega
  have hm := readType_markers hle s
  rw [Nat.zero_add, hr] at hm
  exact hm

/-- A fault of a type is found where it is. -/
lemma TypeFault.readType_eq (h : TypeFault front back cause) :
    readType 0 (front ++ back) = .error ⟨Text.octets front, cause⟩ := by
  cases h with
  | danglingArray pos le =>
    rw [octets_markers]
    exact readType_markers_of_error le (by simp [readType, Nat.ne_of_gt pos])
  | unterminatedClass le unclosed =>
    rw [octets_markers]
    exact readType_markers_of_error le (by simp [readType, Text.cutFirst_eq_none.2 unclosed])
  | emptyClassName le =>
    rw [octets_markers]
    exact readType_markers_of_error le (by simp [readType, Text.cutFirst])
  | @unknownCode n c rest le marker object primitive =>
    have hc : Primitive.ofCode? c = none := by
      rw [Option.eq_none_iff_forall_ne_some]
      exact fun p hp => primitive p (Primitive.code_of_ofCode? hp)
    rw [octets_markers]
    exact readType_markers_of_error le (by simp [readType, marker, object, hc])
  | @misplacedVoid n rest pos le =>
    have hv : readType n ('V' :: rest) = .ok (.primitive .void, rest) :=
      readType_descriptor_append rest (JavaType.wellFormed_primitive .void) le
    have hle : 0 + n ≤ maxLevels := by omega
    have hm := readType_markers hle ('V' :: rest)
    rw [Nat.zero_add, hv] at hm
    rw [octets_markers, hm]
    exact if_pos ⟨pos, rfl⟩
  | tooManyDimensions =>
    rw [octets_markers]
    exact readType_markers_of_error (Nat.le_refl _) (by simp [readType])

lemma markers_succ_append (n : Nat) (s : Text) :
    markers (n + 1) ++ s = markers n ++ '[' :: s := by
  rw [markers, List.replicate_succ', List.append_assoc, ← markers, List.singleton_append]

lemma eq_void_of_isVoid (h : t.isVoid = true) : t = .primitive .void := by
  cases t with
  | primitive p => cases p <;> first | rfl | cases h
  | object name => cases h
  | array element => cases h

/-- A fault that is found inside of some arrays is one of the type with their markers in front. -/
lemma faultyBy_of_readType (h : readType levels s = .error f) (hl : levels ≤ maxLevels)
    (hs : levels = 0 → s ≠ []) : FaultyBy TypeFault (markers levels ++ s) (f.shift levels) := by
  fun_induction readType levels s generalizing f with
  | case1 levels =>
    cases h
    have hpos : levels ≠ 0 := fun h => hs h rfl
    refine ⟨markers levels, [], rfl, by simp [Fault.shift], ?_⟩
    rw [if_neg hpos]
    exact .danglingArray (by omega) hl
  | case2 levels r hlimit =>
    cases h
    obtain rfl : levels = maxLevels := by omega
    exact ⟨_, _, rfl, by simp [Fault.shift], .tooManyDimensions⟩
  | case3 levels r hlimit g hg ih =>
    cases h
    have hfault := ih hg (by omega) (fun h => absurd h (by omega))
    rwa [markers_succ_append, ← Fault.shift_shift] at hfault
  | case4 levels r hlimit element rest hr hv =>
    cases h
    obtain rfl := eq_void_of_isVoid hv
    obtain rfl := eq_descriptor_of_readType hr
    refine ⟨markers (levels + 1), 'V' :: rest, (markers_succ_append levels _).symm, ?_, ?_⟩
    · simp [Fault.shift]
    · exact .misplacedVoid (by omega) (by omega)
  | case5 => cases h
  | case6 levels r hc _ =>
    cases h
    refine ⟨markers levels, 'L' :: r, rfl, by simp [Fault.shift], ?_⟩
    exact .unterminatedClass hl (Text.cutFirst_eq_none.1 hc)
  | case7 levels r rest _ hc =>
    cases h
    obtain ⟨rfl, -⟩ := Text.eq_of_cutFirst hc
    exact ⟨markers levels, _, rfl, by simp [Fault.shift], .emptyClassName hl⟩
  | case8 => cases h
  | case9 levels c r hm ho hc =>
    cases h
    refine ⟨markers levels, c :: r, rfl, by simp [Fault.shift], .unknownCode hl hm ho ?_⟩
    rintro p rfl
    rw [Primitive.ofCode?_code] at hc
    cases hc
  | case10 => cases h

/-- **The fault of a type**, if a text starts with none. -/
theorem readType_eq_error_iff (hs : s ≠ []) :
    readType 0 s = .error f ↔ FaultyBy TypeFault s f := by
  constructor
  · intro h
    have hfault := faultyBy_of_readType h (Nat.zero_le _) fun _ => hs
    rwa [Fault.shift_zero] at hfault
  · rintro ⟨front, back, rfl, ho, h⟩
    rw [h.readType_eq, ho]

/-! ### Parameters and return type -/

lemma readParameters_append (h : ∀ t ∈ ts, IsParameter t) (rest : Text) :
    readParameters (ts.flatMap JavaType.descriptor ++ rest) =
      match readParameters rest with
      | .error f => .error (f.shift (Text.octets (ts.flatMap JavaType.descriptor)))
      | .ok us => .ok (ts ++ us) := by
  induction ts with
  | nil =>
    rw [List.flatMap_nil, List.nil_append]
    rcases readParameters rest with f | us <;> simp
  | cons t ts ih =>
    rw [List.forall_mem_cons] at h
    rw [List.flatMap_cons, List.append_assoc, readParameters_descriptor_append h.1, ih h.2]
    rcases readParameters rest with f | us <;> simp

lemma TypeFault.ne_nil (h : TypeFault front back cause) : front ++ back ≠ [] := by
  cases h with
  | danglingArray pos => simpa [markers] using Nat.ne_of_gt pos
  | _ => simp

/-- A fault of a parameter is found where it is. -/
lemma ParameterFault.readParameters_eq (h : ParameterFault front back cause) :
    readParameters (front ++ back) = .error ⟨Text.octets front, cause⟩ := by
  cases h with
  | type fault => rw [readParameters_of_ne_nil fault.ne_nil, fault.readType_eq]
  | @misplacedVoid rest =>
    have hr : readType 0 ('V' :: rest) = .ok (.primitive .void, rest) :=
      readType_zero_eq_ok_iff.2 ⟨rfl, JavaType.wellFormed_primitive .void⟩
    rw [List.nil_append, readParameters_of_ne_nil (List.cons_ne_nil _ _), hr]
    rfl

/-- Behind some parameters a text that is not read stands at one that is none. -/
lemma faultyBy_of_readParameters (h : readParameters s = .error f) :
    ∃ (ts : List JavaType) (rest : Text) (g : Fault), (∀ t ∈ ts, IsParameter t) ∧
      s = ts.flatMap JavaType.descriptor ++ rest ∧ FaultyBy ParameterFault rest g ∧
      f = g.shift (Text.octets (ts.flatMap JavaType.descriptor)) := by
  fun_induction readParameters s generalizing f
  case case1 => cases h
  case case2 s hs g hg =>
    cases h
    obtain ⟨front, back, he, ho, hf⟩ := (readType_eq_error_iff hs).1 hg
    exact ⟨[], s, g, by simp, rfl, ⟨front, back, he, ho, .type hf⟩, g.shift_zero.symm⟩
  case case3 t rest hr taken htaken => exact absurd htaken (octets_descriptor_ne_zero t)
  case case4 t rest hr taken htaken hv =>
    cases h
    obtain rfl := eq_void_of_isVoid hv
    obtain rfl := eq_descriptor_of_readType hr
    refine ⟨[], 'V' :: rest, ⟨0, .misplacedVoid⟩, by simp, rfl, ?_, (Fault.shift_zero _).symm⟩
    exact ⟨[], 'V' :: rest, rfl, rfl, .misplacedVoid⟩
  case case5 t rest hr taken htaken hv g hg ih =>
    cases h
    obtain ⟨rfl, hw⟩ := readType_zero_eq_ok_iff.1 hr
    obtain ⟨ts, rest', f, hts, rfl, hf, rfl⟩ := ih hg
    refine ⟨t :: ts, rest', f, ?_, by simp, hf, by simp [taken]⟩
    rw [List.forall_mem_cons]
    exact ⟨isParameter_iff.2 ⟨hw, by simpa using hv⟩, hts⟩
  case case6 => cases h

lemma ReturnFault.readWhole_eq (h : ReturnFault front back cause) :
    readWhole (front ++ back) = .error ⟨Text.octets front, cause⟩ := by
  cases h with
  | missingReturnType => rfl
  | type fault => rw [readWhole, fault.readType_eq]
  | @trailingInput t _ type more =>
    have hr : readType 0 (t.descriptor ++ back) = .ok (t, back) :=
      readType_zero_eq_ok_iff.2 ⟨rfl, type⟩
    simp only [readWhole, hr, more, if_false]

/-- **The fault of a return type**, if a text is none. -/
theorem readWhole_eq_error_iff : readWhole s = .error f ↔ FaultyBy ReturnFault s f := by
  constructor
  · intro h
    rw [readWhole] at h
    rcases hr : readType 0 s with g | ⟨t, rest⟩
    · obtain rfl : g = f := by simpa [hr] using h
      rcases s with _ | ⟨c, r⟩
      · cases hr
        exact ⟨[], [], rfl, rfl, .missingReturnType⟩
      · obtain ⟨front, back, he, ho, hf⟩ := (readType_eq_error_iff (List.cons_ne_nil c r)).1 hr
        exact ⟨front, back, he, ho, .type hf⟩
    · obtain ⟨rfl, hw⟩ := readType_zero_eq_ok_iff.1 hr
      simp only [hr] at h
      split at h
      · cases h
      · next hrest =>
        cases h
        exact ⟨_, rest, rfl, rfl, .trailingInput hw hrest⟩
  · rintro ⟨front, back, rfl, ho, h⟩
    rw [h.readWhole_eq, ho]

/-! ### Signatures -/

lemma readSignature_of_not_opened (h : s.head? ≠ some '(') :
    readSignature s = .error ⟨0, .missingParameterList⟩ := by
  rw [readSignature.eq_def]
  split
  · exact absurd rfl h
  · rfl

lemma readSignature_of_not_closed (h : ')' ∉ rest) :
    readSignature ('(' :: rest) = .error ⟨Text.octets ('(' :: rest), .missingParameterList⟩ := by
  rw [readSignature, Text.cutLast_eq_none.2 h]

lemma SignatureFault.readSignature_eq (h : SignatureFault front back cause) :
    readSignature (front ++ back) = .error ⟨Text.octets front, cause⟩ := by
  cases h with
  | notOpened first => exact readSignature_of_not_opened first
  | notClosed close =>
    rw [List.append_nil]
    exact readSignature_of_not_closed close
  | @parameter ts front back result cause before close fault =>
    have hp := readParameters_append before (front ++ back)
    rw [fault.readParameters_eq] at hp
    have hs := readSignature_append (ts.flatMap JavaType.descriptor ++ (front ++ back)) close
    rw [hp] at hs
    rw [List.cons_append, octets_open, Text.octets_append]
    simpa [Fault.shift] using hs
  | @returnType ts front back cause parameters close fault =>
    have hs := readSignature_append (ts.flatMap JavaType.descriptor) close
    rw [readParameters_flatMap parameters] at hs
    simp only [fault.readWhole_eq] at hs
    rw [octets_parentheses]
    simpa [Fault.shift] using hs

lemma faultyBy_of_parameters {parameters result : Text} (close : ')' ∉ result)
    (h : readParameters parameters = .error f) :
    FaultyBy SignatureFault ('(' :: parameters ++ ')' :: result) (f.shift 1) := by
  obtain ⟨ts, rest, g, hts, rfl, ⟨front, back, rfl, ho, hf⟩, rfl⟩ := faultyBy_of_readParameters h
  refine ⟨_, _, ?_, ?_, .parameter hts close hf⟩
  · simp
  · rw [List.cons_append, octets_open, Text.octets_append, ho]
    rfl

lemma faultyBy_of_result {parameters result : Text} (close : ')' ∉ result)
    (hp : readParameters parameters = .ok ts) (h : readWhole result = .error f) :
    FaultyBy SignatureFault ('(' :: parameters ++ ')' :: result)
      (f.shift (Text.octets parameters + 2)) := by
  obtain ⟨rfl, hts⟩ := readParameters_eq_ok_iff.1 hp
  obtain ⟨front, back, rfl, ho, hf⟩ := readWhole_eq_error_iff.1 h
  refine ⟨_, back, ?_, ?_, .returnType hts close hf⟩
  · simp
  · rw [octets_parentheses, ho]
    rfl

lemma faultyBy_of_readSignature (h : readSignature s = .error f) :
    FaultyBy SignatureFault s f := by
  by_cases hopen : s.head? = some '('
  · obtain ⟨body, rfl⟩ := List.head?_eq_some_iff.1 hopen
    rcases hc : Text.cutLast ')' body with _ | ⟨parameters, result⟩
    · have hclose := Text.cutLast_eq_none.1 hc
      rw [readSignature_of_not_closed hclose] at h
      cases h
      exact ⟨_, [], (List.append_nil _).symm, rfl, .notClosed hclose⟩
    · obtain ⟨rfl, hclose⟩ := Text.eq_of_cutLast hc
      rw [← List.cons_append, readSignature_append _ hclose] at h
      rcases hp : readParameters parameters with g | ts
      · obtain rfl : g.shift 1 = f := by simpa [hp] using h
        exact faultyBy_of_parameters hclose hp
      · rcases hr : readWhole result with g | t
        · obtain rfl : g.shift (Text.octets parameters + 2) = f := by simpa [hp, hr] using h
          exact faultyBy_of_result hclose hp hr
        · simp [hp, hr] at h
  · rw [readSignature_of_not_opened hopen] at h
    cases h
    exact ⟨[], s, rfl, rfl, .notOpened hopen⟩

/-- **The fault of a signature**, if a text is none. -/
theorem readSignature_eq_error_iff :
    readSignature s = .error f ↔ FaultyBy SignatureFault s f := by
  constructor
  · exact faultyBy_of_readSignature
  · rintro ⟨front, back, rfl, ho, h⟩
    rw [h.readSignature_eq, ho]

lemma ReturnFault.cause_ne (h : ReturnFault front back cause) : cause ≠ .noProgress := by
  rintro rfl
  cases h with | type fault => cases fault

lemma SignatureFault.cause_ne (h : SignatureFault front back cause) : cause ≠ .noProgress := by
  rintro rfl
  cases h with
  | parameter _ _ fault => cases fault with | type fault => cases fault
  | returnType _ _ fault => exact fault.cause_ne rfl

lemma decode_eq_error_iff_readSignature {d : Text} {e : Error} :
    decode d = .error e ↔ ∃ f, readSignature d = .error f ∧ f.within d = e := by
  rw [decode]
  rcases readSignature d with f | s
  · constructor
    · exact fun h => ⟨f, rfl, Except.error.inj h⟩
    · rintro ⟨g, hg, rfl⟩
      cases hg
      rfl
  · constructor
    · exact fun h => (by cases h)
    · rintro ⟨g, hg, -⟩
      cases hg

/-- **Errors of decoding.** A text is not decoded just if it can be cut at a fault: `front` holds
nothing but complete parameters, the parentheses, and of the type at fault what is in front of the
fault, and `back` starts with what the cause names. The error names the text, the cause, and the
number of octets in `front`, so the place of a character or the end of the text. -/
theorem decode_eq_error_iff {d : Text} :
    (∀ e, decode d = .error e ↔ e.descriptor = d ∧ ∃ front back, d = front ++ back ∧
      Text.octets front = e.position ∧ SignatureFault front back e.cause) ∧
    ∀ e, decode d = .error e → e.position ≤ Text.octets d ∧ e.cause ≠ .noProgress := by
  have hiff (e) : decode d = .error e ↔ e.descriptor = d ∧ ∃ front back, d = front ++ back ∧
      Text.octets front = e.position ∧ SignatureFault front back e.cause := by
    rw [decode_eq_error_iff_readSignature]
    constructor
    · rintro ⟨f, hf, rfl⟩
      exact ⟨rfl, readSignature_eq_error_iff.1 hf⟩
    · rcases e with ⟨_, position, cause⟩
      rintro ⟨rfl, h⟩
      exact ⟨⟨position, cause⟩, readSignature_eq_error_iff.2 h, rfl⟩
  refine ⟨hiff, fun e he => ?_⟩
  obtain ⟨-, front, back, rfl, ho, hf⟩ := (hiff e).1 he
  refine ⟨?_, hf.cause_ne⟩
  rw [Text.octets_append, ← ho]
  exact Nat.le_add_right _ _

theorem decode_unknownLetter :
    decode "(Lé;[?)V".toList = .error ⟨"(Lé;[?)V".toList, 6, .unknownCode '?'⟩ ∧
    6 ≤ Text.octets "(Lé;[?)V".toList ∧
    ∃ front back, "(Lé;[?)V".toList = front ++ back ∧ Text.octets front = 6 ∧
      SignatureFault front back (.unknownCode '?') := by
  have htype : TypeFault (markers 1) ['?'] (.unknownCode '?') :=
    .unknownCode (by decide) (by decide) (by decide) fun p => by cases p <;> decide
  have hfault : SignatureFault "(Lé;[".toList "?)V".toList (.unknownCode '?') :=
    @SignatureFault.parameter [.object ['é']] (markers 1) ['?'] ['V'] _ (by decide) (by decide)
      (.type htype)
  obtain ⟨hiff, hbounds⟩ := decode_eq_error_iff (d := "(Lé;[?)V".toList)
  have herror := (hiff ⟨"(Lé;[?)V".toList, 6, .unknownCode '?'⟩).2
    ⟨rfl, _, _, rfl, rfl, hfault⟩
  exact ⟨herror, (hbounds _ herror).1, ((hiff _).1 herror).2⟩

end Unmask.Descriptor
