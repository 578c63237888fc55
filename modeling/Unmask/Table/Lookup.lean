import Unmask.Descriptor.Reader
import Unmask.Renaming
import Unmask.Table.Basic
import Unmask.Text.Blank

/-!
Finding real names in a table. A name that is not mapped stands for itself wherever a name has to
be shown.
-/

namespace Unmask.Table

def realClass? (t : Table) (name : Text) : Option Text := t.classes[Name.internal name]?

def realPackage? (t : Table) (name : Text) : Option Text :=
  t.packages[Name.internal name]?

/-- The class as it is shown. -/
def showClass (t : Table) (name : Text) (withPackage : Bool) : Text :=
  Name.display ((t.realClass? name).getD (Name.internal name)) withPackage

/-- The real name of a package as it is shown. -/
def showPackage? (t : Table) (name : Text) : Option Text :=
  (t.realPackage? name).map Name.qualified

/-- What a method is mapped to, such as `void run(int)`. The class goes by its real name. -/
def declaration? (t : Table) (owner obfuscated : Text) : Option Text :=
  t.methods[Name.internal owner]?.bind fun ms => ms[obfuscated]?

/-- The name in the declaration of a method: the word in front of the first `(`, if any. -/
def methodName (declaration : Text) : Text :=
  let head := match Text.cutFirst '(' declaration with
    | some (head, _) => head
    | none => declaration
  Text.afterLast Text.isBlank (Text.trimEnd head)

/-- The method as it is shown. -/
def showMethod (t : Table) (owner obfuscated : Text) : Text :=
  match t.declaration? owner obfuscated with
  | some declaration => methodName declaration
  | none => obfuscated

/-- Renames classes that are spelled as in the table. -/
def classRenaming (t : Table) : Renaming := fun name => t.classes[name]?

/-- The descriptor of an array whose innermost type is a mapped class. -/
def isMappedArray (t : Table) (constant : Text) : Bool :=
  match constant with
  | '[' :: _ =>
    match Descriptor.decodeType constant with
    | .ok type =>
      match type.innermost with
      | .object name => name ∈ t.classes
      | _ => false
    | .error _ => false
  | _ => false

/-- The real form of a constant in internal form: an array of a class, else a class, else a
package. -/
def realConstant? (t : Table) (constant : Text) : Option Text :=
  if t.isMappedArray constant then (t.classRenaming.descriptor constant).toOption
  else t.classes[constant]?.or t.packages[constant]?

end Unmask.Table
