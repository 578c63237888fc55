import Unmask.Frame
import Unmask.Render.Layout
import Unmask.Table.Lookup

/-!
Methods as they are shown: `return-type class.method(argument, ...)`, with real names throughout.
-/

namespace Unmask.Render

/-- The innermost type, and `[]` for each array around it. -/
def type (t : Table) (qualify : Bool) : JavaType → Text
  | .primitive p => p.name
  | .object name => t.showClass name qualify
  | .array element => type t qualify element ++ ['[', ']']

def arguments (t : Table) (l : Layout) (parameters : List JavaType) : Text :=
  if parameters = [] then ['(', ')']
  else if l.showArguments then
    '(' :: List.intercalate [',', ' '] (parameters.map (type t l.qualifyArguments)) ++ [')']
  else "(...)".toList

def signature (t : Table) (l : Layout) (className methodName : Text) (s : Signature) : Text :=
  (if l.showReturnType then type t l.qualifyReturnType s.returnType ++ [' '] else [])
    ++ (if l.showClass then t.showClass className l.qualifyClass ++ ['.'] else [])
    ++ t.showMethod ((t.realClass? className).getD className) methodName
    ++ arguments t l s.parameters

/-- A frame without its place in a trace. A descriptor that cannot be decoded leaves nothing to
show. -/
def method (t : Table) (l : Layout) (f : Frame) : Except Descriptor.Error Text :=
  (Descriptor.decode f.descriptor).map (signature t l f.className f.methodName)

end Unmask.Render
