import Unmask.Proofs.Table.Reachable
import Unmask.Proofs.Text.Replace
import Unmask.Render.Method

/-!
Classes shown without their packages. The name is cut at another separator than the one that is
shown with the package, and the two agree since no name in a table is in display form.
-/

namespace Unmask

open Text (LastPart)

namespace Table

variable {t : Table}

lemma not_mem_showClass_true (t : Table) (n : Text) : '/' ∉ t.showClass n true :=
  Text.not_mem_replace (by decide) _

lemma not_mem_showClass_false (t : Table) (n : Text) : '/' ∉ t.showClass n false :=
  (Text.lastPart_afterLast '/' _).free

lemma WellFormed.lastPart_showClass (h : t.WellFormed) (n : Text) :
    LastPart '.' (t.showClass n true) (t.showClass n false) :=
  (Text.lastPart_afterLast '/' _).replace (h.not_mem_nameOf n)

end Table

namespace Render

variable {t : Table}

/-- The marks of so many arrays. -/
def brackets (n : Nat) : Text := (List.replicate n ['[', ']']).flatten

lemma type_eq_innermost (t : Table) (q : Bool) (u : JavaType) :
    type t q u = type t q u.innermost ++ brackets u.levels := by
  induction u with
  | primitive p => exact (List.append_nil _).symm
  | object name => exact (List.append_nil _).symm
  | array element ih =>
    have hmarks : brackets element.array.levels = brackets element.levels ++ ['[', ']'] := by
      simp [brackets, JavaType.levels, List.replicate_succ']
    rw [hmarks, type, ih, JavaType.innermost, List.append_assoc]

lemma not_mem_primitive_name (p : Primitive) : '.' ∉ p.name := by
  cases p <;> decide

/-- A primitive type has no package, nor does a type that is no array have any marks. -/
lemma lastPart_innermost (h : t.WellFormed) (u : JavaType) :
    LastPart '.' (type t true u.innermost) (type t false u.innermost) := by
  induction u with
  | primitive p => exact ⟨not_mem_primitive_name p, .inl rfl⟩
  | object name => exact h.lastPart_showClass name
  | array element ih => exact ih

/-- **The name without its package is the last part of the whole name**, in every table that can
come up. With its package a class is shown with dots alone between the parts of its name, without
it with no separator at all, and just what follows the last dot. So it is for the types of a method:
without packages, what follows the last dot in the innermost type stands in front of the same
marks. -/
theorem simple_name_is_last_part (ht : t.Reachable) :
    (∀ n, '/' ∉ t.showClass n true ∧ '/' ∉ t.showClass n false ∧ '.' ∉ t.showClass n false ∧
      LastPart '.' (t.showClass n true) (t.showClass n false)) ∧
    ∀ u : JavaType, ∃ last, LastPart '.' (type t true u.innermost) last ∧
      type t false u = last ++ brackets u.levels ∧
      type t true u = type t true u.innermost ++ brackets u.levels := by
  have hw := ht.wellFormed
  constructor
  · intro n
    have hlast := hw.lastPart_showClass n
    exact ⟨t.not_mem_showClass_true n, t.not_mem_showClass_false n, hlast.free, hlast⟩
  · intro u
    exact ⟨_, lastPart_innermost hw u, type_eq_innermost t false u, type_eq_innermost t true u⟩

/-- A class whose name is given once in display form and once in internal form. -/
def packaged : Table.Session := .after [.addClass "x.y/S".toList "a.b".toList]

theorem simple_name_packaged :
    packaged.table.showClass "a/b".toList true = "x.y.S".toList ∧
    LastPart '.' "x.y.S".toList (packaged.table.showClass "a/b".toList false) ∧
    ∃ last, LastPart '.' "x.y.S".toList last ∧
      type packaged.table false (.array (.array (.object "a/b".toList))) =
        last ++ "[][]".toList := by
  have ht : packaged.table.Reachable := ⟨packaged, Table.Session.Reachable.new.run _, rfl⟩
  obtain ⟨hname, htype⟩ := simple_name_is_last_part ht
  have hshown : packaged.table.showClass "a/b".toList true = "x.y.S".toList := by decide
  have hlast := (hname "a/b".toList).2.2.2
  rw [hshown] at hlast
  obtain ⟨last, hinner, hshort, -⟩ := htype (.array (.array (.object "a/b".toList)))
  refine ⟨hshown, hlast, last, ?_, hshort⟩
  rw [← hshown]
  exact hinner

end Render

end Unmask
