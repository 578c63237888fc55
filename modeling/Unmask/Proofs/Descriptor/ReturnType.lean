import Unmask.Proofs.Descriptor.Fault

/-!
What stands behind the parameters of a method. It is read as a type by itself is, and an error in
it is the same but for its place.
-/

namespace Unmask.Descriptor

variable {p r : Text} {s : Signature}

/-- A parameter list, by its first and its last character. -/
lemma exists_parentheses (first : p.head? = some '(') (last : p.getLast? = some ')') :
    ∃ q, p = '(' :: q ++ [')'] := by
  obtain ⟨rest, rfl⟩ := List.head?_eq_some_iff.1 first
  rcases List.eq_nil_or_concat rest with rfl | ⟨q, c, rfl⟩
  · exact absurd last (by decide)
  · have hlast : ('(' :: q ++ [c]).getLast? = some c := List.getLast?_concat
    obtain rfl : c = ')' := Option.some.inj (hlast.symm.trans (by simpa using last))
    exact ⟨q, by simp⟩

/-- A parameter list that can be read before a return type can be read by itself. -/
lemma readParameters_of_decode {q : Text} (h : decode ('(' :: q ++ [')', 'V']) = .ok s) :
    readParameters q = .ok s.parameters := by
  obtain ⟨hd, hw⟩ := decode_eq_ok_iff.1 h
  rw [wellFormed_iff] at hw
  have hcut := Text.cutLast_append (s.parameters.flatMap JavaType.descriptor) hw.2.2
  have hbody : s.parameters.flatMap JavaType.descriptor ++ ')' :: s.returnType.descriptor =
      q ++ ')' :: ['V'] := (List.cons.inj hd).2
  rw [hbody, Text.cutLast_append q (by decide)] at hcut
  obtain ⟨rfl, -⟩ := Prod.mk.inj (Option.some.inj hcut)
  exact readParameters_eq_ok_iff.2 ⟨rfl, hw.1⟩

/-- Behind a parameter list the return type is read as a type by itself. -/
lemma decode_append (first : p.head? = some '(') (last : p.getLast? = some ')')
    (hp : decode (p ++ ['V']) = .ok s) (hr : ')' ∉ r) :
    decode (p ++ r) =
      match decodeType r with
      | .ok t => .ok ⟨s.parameters, t⟩
      | .error e => .error ⟨p ++ r, Text.octets p + e.position, e.cause⟩ := by
  obtain ⟨q, rfl⟩ := exists_parentheses first last
  have hq : readParameters q = .ok s.parameters := by
    refine readParameters_of_decode ?_
    simpa using hp
  have happ : '(' :: q ++ [')'] ++ r = '(' :: q ++ ')' :: r := by simp
  rw [happ, decode, readSignature_append q hr, hq, decodeType, octets_parentheses]
  rcases readWhole r with f | t
  · rfl
  · rfl

/-- **A type by itself** is decoded just from its descriptor, if it is well formed, and the same
holds behind the parameters of a method: with the parameters `p` in front, `r` is decoded to what
it is decoded to by itself, and else the error is the one of `r` by itself, as many octets further
on as `p` has. -/
theorem decodeType_and_returnType :
    (∀ d t, decodeType d = .ok t ↔ t.descriptor = d ∧ t.WellFormed) ∧
    ∀ p s, p.head? = some '(' → p.getLast? = some ')' → decode (p ++ ['V']) = .ok s →
      ∀ r, ')' ∉ r →
        (∀ t, decode (p ++ r) = .ok ⟨s.parameters, t⟩ ↔ decodeType r = .ok t) ∧
        (∀ u, decode (p ++ r) = .ok u → u.parameters = s.parameters) ∧
        ∀ e, decode (p ++ r) = .error e ↔
          ∃ f, decodeType r = .error f ∧ e = ⟨p ++ r, Text.octets p + f.position, f.cause⟩ := by
  refine ⟨fun d t => decodeType_eq_ok_iff, fun p s first last hp r hr => ?_⟩
  rw [decode_append first last hp hr]
  rcases decodeType r with f | t
  · simp [eq_comm]
  · simp

/-- Behind `(I[La;)`, which is seven octets. -/
theorem decode_parameters_append :
    decode "(I[La;)[J".toList = .ok
      ⟨[.primitive .int, .array (.object ['a'])], .array (.primitive .long)⟩ ∧
    decode "(I[La;)[Lb".toList = .error ⟨"(I[La;)[Lb".toList, 8, .unterminatedClass⟩ := by
  obtain ⟨hiff, hreturn⟩ := decodeType_and_returnType
  have hp : decode ("(I[La;)".toList ++ ['V']) = .ok
      ⟨[.primitive .int, .array (.object ['a'])], .primitive .void⟩ :=
    decode_eq_ok_iff.2 ⟨rfl, by decide⟩
  have hbehind := hreturn _ _ rfl rfl hp
  refine ⟨((hbehind "[J".toList (by decide)).1 _).2 ((hiff _ _).2 ⟨rfl, by decide⟩), ?_⟩
  exact ((hbehind "[Lb".toList (by decide)).2.2 _).2 ⟨⟨"[Lb".toList, 1, .unterminatedClass⟩,
    by rfl, rfl⟩

/-- By itself a class name may hold `)`. -/
example : decodeType "La)b;".toList = .ok (.object "a)b".toList) :=
  decodeType_eq_ok_iff.2 ⟨rfl, by decide⟩

end Unmask.Descriptor
