import Unmask.Proofs.Mapping.Spelling
import Unmask.Render.Method
import Unmask.Render.Package

/-!
The spelling of names in what is shown. Nothing that is looked up, shown or built depends on
whether the parts of a name are separated by `.` or by `/`.
-/

namespace Unmask.Render

open Name Table

variable (t : Table)

lemma package_internal (name : Text) : package t (internal name) = package t name := by
  simp only [package, internal_eq_nil_iff, showPackage?_internal, qualified_internal]

lemma classLoader_internal (typeName : Text) (name : Option Text) :
    classLoader t (internal typeName) name = classLoader t typeName name := by
  simp only [classLoader, showClass_internal]

lemma type_internal (qualify : Bool) (u : JavaType) :
    type t qualify (u.mapNames internal) = type t qualify u := by
  induction u with
  | primitive p => rfl
  | object name => exact showClass_internal t name qualify
  | array element ih => rw [JavaType.mapNames, type, type, ih]

lemma arguments_internal (l : Layout) (us : List JavaType) :
    arguments t l (us.map (JavaType.mapNames internal)) = arguments t l us := by
  have hmap : (us.map (JavaType.mapNames internal)).map (type t l.qualifyArguments) =
      us.map (type t l.qualifyArguments) := by
    rw [List.map_map]
    exact List.map_congr_left fun u _ => type_internal t l.qualifyArguments u
  simp only [arguments, hmap, List.map_eq_nil_iff]

/-- The methods of a class that is not mapped are looked up under the name it is given by. -/
lemma showMethod_owner_internal (c m : Text) :
    t.showMethod ((t.realClass? (internal c)).getD (internal c)) m =
      t.showMethod ((t.realClass? c).getD c) m := by
  rw [realClass?_internal]
  rcases t.realClass? c with _ | x
  · exact showMethod_internal t c m
  · rfl

lemma signature_internal (l : Layout) (c m : Text) (s : Signature) :
    signature t l (internal c) m (s.mapNames internal) = signature t l c m s := by
  simp only [signature, Signature.mapNames, type_internal, arguments_internal,
    showClass_internal, showMethod_owner_internal]

/-- **The spelling of names does not matter.** Two spellings of a name, which have the same
internal form, are looked up and shown alike by any table, and so is a method whose class and
signature are spelled another way, in every layout. Calls and files that differ in the spelling of
names make the same table. -/
theorem spelling_irrelevant :
    (∀ (t : Table) (n n' : Text), internal n = internal n' →
      t.realClass? n = t.realClass? n' ∧ t.realPackage? n = t.realPackage? n' ∧
      (∀ q, t.showClass n q = t.showClass n' q) ∧ t.showPackage? n = t.showPackage? n' ∧
      package t n = package t n' ∧ (∀ name, classLoader t n name = classLoader t n' name) ∧
      (∀ m, t.declaration? n m = t.declaration? n' m) ∧
      ∀ m, t.showMethod n m = t.showMethod n' m) ∧
    (∀ (t : Table) (l : Layout) (c c' m : Text) (s s' : Signature),
      internal c = internal c' → s.mapNames internal = s'.mapNames internal →
        signature t l c m s = signature t l c' m s') ∧
    (∀ (s : Session) (calls calls' : List Call),
      calls.map Call.internal = calls'.map Call.internal →
        (s.run calls).table = (s.run calls').table) ∧
    ∀ (packages : Bool) (bytes bytes' : List UInt8) (t : Table),
      (Mapping.fileLines bytes).map Mapping.internalLine =
          (Mapping.fileLines bytes').map Mapping.internalLine →
        (Mapping.read packages (.bytes bytes)).2 = .ok t →
          (Mapping.read packages (.bytes bytes')).2 = .ok t := by
  refine ⟨fun t n n' h => ⟨?_, ?_, fun q => ?_, ?_, ?_, fun name => ?_, fun m => ?_, fun m => ?_⟩,
    fun t l c c' m s s' hc hs => ?_, fun s calls calls' h => s.table_run_congr h,
    fun packages bytes bytes' t h ht => Mapping.read_respelled ht h⟩
  · exact congr_of_internal (realClass?_internal t) h
  · exact congr_of_internal (realPackage?_internal t) h
  · exact congr_of_internal (f := (t.showClass · q)) (fun n => showClass_internal t n q) h
  · exact congr_of_internal (showPackage?_internal t) h
  · exact congr_of_internal (package_internal t) h
  · exact congr_of_internal (f := (classLoader t · name)) (fun n => classLoader_internal t n name) h
  · exact congr_of_internal (f := (t.declaration? · m)) (fun n => declaration?_internal t n m) h
  · exact congr_of_internal (f := (t.showMethod · m)) (fun n => showMethod_internal t n m) h
  · rw [← signature_internal, hc, hs, signature_internal]

/-- A file with a class in a package, with `c` between the parts of its names. -/
def separatedBy (c : Char) : List UInt8 :=
  Text.Utf8.encode (['p', c] ++ "S -> a".toList ++ [c] ++ "b:\n    void f() -> m\n".toList)

theorem separatedBy_irrelevant : ∃ t : Table,
    (Mapping.read true (.bytes (separatedBy '/'))).2 = .ok t ∧
    (Mapping.read true (.bytes (separatedBy '.'))).2 = .ok t ∧
    t.showMethod ['p', '.', 'S'] ['m'] = ['f'] ∧
    t.showMethod ['p', '/', 'S'] ['m'] = ['f'] ∧
    ∀ l, signature t l ['q', '.', 'T'] ['m'] ⟨[.object ['a', '.', 'b']], .object ['r', '/', 'U']⟩ =
      signature t l ['q', '/', 'T'] ['m'] ⟨[.object ['a', '/', 'b']], .object ['r', '.', 'U']⟩ := by
  obtain ⟨hname, hsignature, -, hfile⟩ := spelling_irrelevant
  have h : (Mapping.read true (.bytes (separatedBy '/'))).2 =
      .ok ((Mapping.read true (.bytes (separatedBy '/'))).2.toOption.getD {}) := by decide
  have hmethod : ((Mapping.read true (.bytes (separatedBy '/'))).2.toOption.getD {}).showMethod
      ['p', '.', 'S'] ['m'] = ['f'] := by decide
  have hspelled := (hname ((Mapping.read true (.bytes (separatedBy '/'))).2.toOption.getD {})
    ['p', '.', 'S'] ['p', '/', 'S'] (by decide)).2.2.2.2.2.2.2 ['m']
  refine ⟨_, h, hfile true _ _ _ (by decide) h, hmethod, hspelled.symm.trans hmethod, fun l => ?_⟩
  exact hsignature _ l _ _ ['m'] _ _ (by decide) (by decide)

end Unmask.Render
