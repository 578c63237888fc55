import Std.Data.ExtTreeMap
import Unmask.Name
import Unmask.Note

/-!
The table from obfuscated names to real ones. All its names of classes and packages are in
internal form, and the first mapping given for a name is kept.

Methods are filed under the real name of their class, so the classes that have a method table
are the values of `classes`. In which order the mappings came is forgotten: two tables are equal if
they map the same.
-/

namespace Unmask

abbrev NameMap := Std.ExtTreeMap Text Text

structure Table where
  classes : NameMap := ∅
  packages : NameMap := ∅
  methods : Std.ExtTreeMap Text NameMap := ∅
  deriving DecidableEq

namespace Table

instance : Inhabited Table := ⟨{}⟩

def isEmpty (t : Table) : Bool := t.classes.isEmpty && t.packages.isEmpty && t.methods.isEmpty

/-- Maps a class, and gives its real name a method table if it has none. Along with the table it
says whether the class was taken in: it is refused if the obfuscated name is mapped already. -/
def addClass (t : Table) (real obfuscated : Text) : Table × Bool :=
  if Name.internal obfuscated ∈ t.classes then (t, false)
  else
    ({ t with
      classes := t.classes.insert (Name.internal obfuscated) (Name.internal real)
      methods := t.methods.insertIfNew (Name.internal real) ∅ }, true)

/-- The table that the class was taken in by, if it was. -/
def addClass? (t : Table) (real obfuscated : Text) : Option Table :=
  match t.addClass real obfuscated with
  | (u, true) => some u
  | (_, false) => none

def addPackage (t : Table) (real obfuscated : Text) : Table :=
  { t with packages := t.packages.insertIfNew (Name.internal obfuscated) (Name.internal real) }

/-- Maps a method of the class with the real name `owner` to its declaration, if the class has a
method table. -/
def addMethod (t : Table) (owner obfuscated declaration : Text) : Table :=
  { t with
    methods := t.methods.modify (Name.internal owner) (·.insertIfNew obfuscated declaration) }

/-! ### What goes unheeded -/

def classNotes (t : Table) (real obfuscated : Text) : List Note :=
  match t.classes[Name.internal obfuscated]? with
  | some first => [.classKept (Name.internal obfuscated) first (Name.internal real)]
  | none => []

def packageNotes (t : Table) (real obfuscated : Text) : List Note :=
  match t.packages[Name.internal obfuscated]? with
  | some first =>
    if first = Name.internal real then []
    else [.packageKept (Name.internal obfuscated) first (Name.internal real)]
  | none => []

def methodNotes (t : Table) (owner obfuscated declaration : Text) : List Note :=
  match t.methods[Name.internal owner]?.bind fun ms => ms[obfuscated]? with
  | some first => [.methodKept obfuscated first declaration]
  | none => []

end Table

end Unmask
