import Unmask.Text.Basic

/-!
Names of classes and packages. In the internal form `/` stands between the parts of a name, in
the display form `.` does.
-/

namespace Unmask.Name

def internal (name : Text) : Text := Text.replace '.' '/' name

def qualified (name : Text) : Text := Text.replace '/' '.' name

/-- The last part of a name in internal form. -/
def simple (name : Text) : Text := Text.afterLast (· = '/') name

/-- The display form of a name in internal form, with or without its package. -/
def display (name : Text) (withPackage : Bool) : Text :=
  if withPackage then qualified name else simple name

/-- The package of a class name in internal form. A class of the default package has none. -/
def package? (name : Text) : Option Text := (Text.cutLast '/' name).map Prod.fst

theorem not_mem_internal (name : Text) : '.' ∉ internal name :=
  Text.not_mem_replace (by decide) name

theorem internal_eq_self {name : Text} (h : '.' ∉ name) : internal name = name :=
  Text.replace_eq_self h

theorem internal_internal (name : Text) : internal (internal name) = internal name :=
  internal_eq_self (not_mem_internal name)

end Unmask.Name
