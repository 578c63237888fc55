import Unmask.Text.Basic

/-!
Which parts of a method are shown, with or without the packages of its classes, and how the lines
of a stack trace are made up.
-/

namespace Unmask.Render

structure Layout where
  showReturnType : Bool := true
  qualifyReturnType : Bool := true
  showClass : Bool := true
  qualifyClass : Bool := true
  showArguments : Bool := true
  qualifyArguments : Bool := true
  /-- The number of frames after which a stack trace is cut off. -/
  maxFrames : Option Nat := none
  indent? : Option Text := none
  linePrefix? : Option Text := none
  lineSeparator? : Option Text := none
  deriving DecidableEq, Repr

namespace Layout

/-- No class is shown with its package. -/
def unqualified (l : Layout) : Layout :=
  { l with qualifyReturnType := false, qualifyClass := false, qualifyArguments := false }

def indent (l : Layout) : Text := l.indent?.getD [' ', ' ', ' ', ' ']

def linePrefix (l : Layout) : Text := l.linePrefix?.getD ['a', 't', ' ']

/-- What ends a line. The default is the one of every build but that for Windows, where a carriage
return stands in front of the line feed. -/
def lineSeparator (l : Layout) : Text := l.lineSeparator?.getD ['\n']

end Layout

end Unmask.Render
