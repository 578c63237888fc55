import Unmask.Proofs.Render.Renamed
import Unmask.Proofs.Table.Constant
import Unmask.Proofs.Table.Spelling
import Unmask.Render.Package

/-!
What is shown without a table: every name as it is, with dots between its parts.
-/

namespace Unmask

open Name

namespace Table

lemma realConstant?_empty (constant : Text) : ({} : Table).realConstant? constant = none := by
  have harray : ∀ n x o, ¬({} : Table).IsArrayOf constant n x o := by
    intro n x o h
    simpa using h.mapped
  rw [realConstant?_of_not_array harray]
  simp

lemma showClass_empty (name : Text) : ({} : Table).showClass name true = qualified name := by
  rw [showClass, ← qualified_internal name]
  simp [realClass?, display]

end Table

namespace Render

/-- The type is shown as source code writes it. -/
lemma type_empty (u : JavaType) : type {} true u = u.display := by
  induction u with
  | primitive p => rfl
  | object name => exact Table.showClass_empty name
  | array element ih => rw [type, ih, JavaType.display]

lemma signature_empty (c m : Text) (s : Signature) :
    signature {} {} c m s = s.returnType.display ++ ' ' :: qualified c ++ '.' :: m ++
      '(' :: List.intercalate [',', ' '] (s.parameters.map JavaType.display) ++ [')'] := by
  have harguments : arguments {} {} s.parameters =
      '(' :: List.intercalate [',', ' '] (s.parameters.map JavaType.display) ++ [')'] := by
    have hmap : s.parameters.map (type {} true) = s.parameters.map JavaType.display :=
      List.map_congr_left fun u _ => type_empty u
    unfold arguments
    split
    · next hnil => rw [hnil]; rfl
    · rw [hmap]; rfl
  simp only [signature, if_true, type_empty, Table.showClass_empty, Table.showMethod_empty,
    harguments]
  simp

lemma package_empty (name : Text) :
    package {} name = if name = [] then defaultPackage else qualified name := by
  simp [package, Table.showPackage?, Table.realPackage?]

end Render

end Unmask
