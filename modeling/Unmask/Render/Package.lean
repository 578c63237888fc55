import Unmask.Table.Lookup

/-!
Packages and class loaders as they are shown.
-/

namespace Unmask.Render

def defaultPackage : Text := "(default package)".toList

def package (t : Table) (name : Text) : Text :=
  if name = [] then defaultPackage
  else
    match t.showPackage? name with
    | some shown => if shown = [] then defaultPackage else shown
    | none => Name.qualified name

/-- A class loader by its type, with its own name behind if it has one. -/
def classLoader (t : Table) (typeName : Text) (name : Option Text) : Text :=
  let shown := t.showClass typeName true
  match name with
  | none | some [] => shown
  | some name => shown ++ " (\"".toList ++ name ++ "\")".toList

end Unmask.Render
