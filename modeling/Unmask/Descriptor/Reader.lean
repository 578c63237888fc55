import Unmask.Descriptor.Fault

/-!
Reading descriptors. A reader of one type takes it off the front of a text and hands back the
rest, and what it took is the descriptor of the type it found.
-/

namespace Unmask.Descriptor

/-- Reads one type that stands inside `levels` arrays. -/
def readType (levels : Nat) : Text → Except Fault (JavaType × Text)
  | [] => .error ⟨0, if levels = 0 then .missingReturnType else .danglingArray⟩
  | c :: r =>
    if c = '[' then
      if maxLevels ≤ levels then .error ⟨0, .tooManyDimensions⟩
      else
        match readType (levels + 1) r with
        | .error f => .error (f.shift 1)
        | .ok (element, rest) =>
          if element.isVoid then .error ⟨1, .misplacedVoid⟩ else .ok (.array element, rest)
    else if c = 'L' then
      match Text.cutFirst ';' r with
      | none => .error ⟨0, .unterminatedClass⟩
      | some (name, rest) =>
        if name = [] then .error ⟨0, .emptyClassName⟩ else .ok (.object name, rest)
    else
      match Primitive.ofCode? c with
      | none => .error ⟨0, .unknownCode c⟩
      | some p => .ok (.primitive p, r)

theorem eq_descriptor_of_readType {levels : Nat} {s rest : Text} {t : JavaType}
    (h : readType levels s = .ok (t, rest)) : s = t.descriptor ++ rest := by
  fun_induction readType levels s generalizing t with
  | case1 => cases h
  | case2 => cases h
  | case3 => cases h
  | case4 => cases h
  | case5 levels r _ element rest' he _ ih =>
    cases h
    exact congrArg ('[' :: ·) (ih he)
  | case6 => cases h
  | case7 => cases h
  | case8 levels r name rest' hc _ _ =>
    cases h
    rw [(Text.eq_of_cutFirst hc).1]
    simp [JavaType.descriptor]
  | case9 => cases h
  | case10 levels c r _ _ p hp =>
    cases h
    simp [JavaType.descriptor, Primitive.code_of_ofCode? hp]

/-- A type that was read took at least one character. -/
theorem length_lt_of_readType {levels : Nat} {s rest : Text} {t : JavaType}
    (h : readType levels s = .ok (t, rest)) : rest.length < s.length := by
  have := List.length_pos_iff.2 t.descriptor_ne_nil
  rw [eq_descriptor_of_readType h, List.length_append]
  omega

/-- Reads types up to the end of the text, none of them `void`. -/
def readParameters (s : Text) : Except Fault (List JavaType) :=
  if s = [] then .ok []
  else
    match _h : readType 0 s with
    | .error f => .error f
    | .ok (t, rest) =>
      let taken := Text.octets t.descriptor
      if taken = 0 then .error ⟨0, .noProgress⟩
      else if t.isVoid then .error ⟨0, .misplacedVoid⟩
      else
        match readParameters rest with
        | .error f => .error (f.shift taken)
        | .ok ts => .ok (t :: ts)
termination_by s.length
decreasing_by exact length_lt_of_readType _h

/-- Reads one type, up to the end of the text. -/
def readWhole (s : Text) : Except Fault JavaType :=
  match readType 0 s with
  | .error f => .error f
  | .ok (t, rest) =>
    if rest = [] then .ok t else .error ⟨Text.octets t.descriptor, .trailingInput rest⟩

/-- Reads a signature. The last `)` closes the parameter list. -/
def readSignature (s : Text) : Except Fault Signature :=
  match s with
  | '(' :: body =>
    match Text.cutLast ')' body with
    | none => .error ⟨Text.octets s, .missingParameterList⟩
    | some (parameters, result) =>
      match readParameters parameters with
      | .error f => .error (f.shift 1)
      | .ok ts =>
        match readWhole result with
        | .error f => .error (f.shift (Text.octets parameters + 2))
        | .ok t => .ok ⟨ts, t⟩
  | _ => .error ⟨0, .missingParameterList⟩

/-- The type that `descriptor` describes. -/
def decodeType (descriptor : Text) : Except Error JavaType :=
  (readWhole descriptor).mapError (Fault.within descriptor)

/-- The method signature that `descriptor` describes. -/
def decode (descriptor : Text) : Except Error Signature :=
  (readSignature descriptor).mapError (Fault.within descriptor)

end Unmask.Descriptor
