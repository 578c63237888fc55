import Unmask.Text.Basic

/-!
Types and method signatures of the class file format, and their descriptors: one letter for a
primitive type, `L` name `;` for a class, `[` in front of the component type for an array, and
the parameters between parentheses in front of the return type for a method.
-/

namespace Unmask

inductive Primitive
  | boolean | byte | short | int | char | long | float | double | void
  deriving DecidableEq, Repr

namespace Primitive

def code : Primitive → Char
  | boolean => 'Z'
  | byte => 'B'
  | short => 'S'
  | int => 'I'
  | char => 'C'
  | long => 'J'
  | float => 'F'
  | double => 'D'
  | void => 'V'

def name : Primitive → Text
  | boolean => "boolean".toList
  | byte => "byte".toList
  | short => "short".toList
  | int => "int".toList
  | char => "char".toList
  | long => "long".toList
  | float => "float".toList
  | double => "double".toList
  | void => "void".toList

def all : List Primitive := [boolean, byte, short, int, char, long, float, double, void]

def ofCode? (c : Char) : Option Primitive := all.find? fun p => p.code = c

theorem ofCode?_code (p : Primitive) : ofCode? p.code = some p := by cases p <;> rfl

theorem code_of_ofCode? {c : Char} {p : Primitive} (h : ofCode? c = some p) : p.code = c := by
  simpa using List.find?_some h

end Primitive

/-- Class names stand as they do in descriptors, with `/` between their parts. -/
inductive JavaType
  | primitive (p : Primitive)
  | object (name : Text)
  | array (element : JavaType)
  deriving DecidableEq, Repr

namespace JavaType

def descriptor : JavaType → Text
  | primitive p => [p.code]
  | object name => 'L' :: name ++ [';']
  | array element => '[' :: element.descriptor

/-- The number of arrays around the innermost type. -/
def levels : JavaType → Nat
  | array element => element.levels + 1
  | _ => 0

def innermost : JavaType → JavaType
  | array element => element.innermost
  | t => t

def isVoid : JavaType → Bool
  | primitive .void => true
  | _ => false

/-- `n` arrays around the type. -/
def arrays (t : JavaType) : Nat → JavaType
  | 0 => t
  | n + 1 => array (t.arrays n)

/-- The type as source code writes it, with the whole class name. -/
def display : JavaType → Text
  | primitive p => p.name
  | object name => Text.replace '/' '.' name
  | array element => element.display ++ ['[', ']']

/-- The type with every class name sent through `f`. -/
def mapNames (f : Text → Text) : JavaType → JavaType
  | primitive p => primitive p
  | object name => object (f name)
  | array element => array (element.mapNames f)

theorem descriptor_ne_nil (t : JavaType) : t.descriptor ≠ [] := by cases t <;> simp [descriptor]

@[simp] theorem levels_arrays (t : JavaType) (n : Nat) : (t.arrays n).levels = t.levels + n := by
  induction n with
  | zero => rfl
  | succ n ih => simp [arrays, levels, ih]; omega

@[simp] theorem innermost_arrays (t : JavaType) (n : Nat) :
    (t.arrays n).innermost = t.innermost := by
  induction n with
  | zero => rfl
  | succ n ih => simp [arrays, innermost, ih]

theorem arrays_innermost (t : JavaType) : t.innermost.arrays t.levels = t := by
  induction t with
  | primitive p => rfl
  | object name => rfl
  | array element ih => simp [innermost, levels, arrays, ih]

end JavaType

structure Signature where
  parameters : List JavaType
  returnType : JavaType
  deriving DecidableEq, Repr

namespace Signature

def descriptor (s : Signature) : Text :=
  '(' :: s.parameters.flatMap JavaType.descriptor ++ ')' :: s.returnType.descriptor

def mapNames (f : Text → Text) (s : Signature) : Signature :=
  ⟨s.parameters.map (JavaType.mapNames f), s.returnType.mapNames f⟩

end Signature

end Unmask
