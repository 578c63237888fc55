import Unmask.Render.Method

/-!
Stack traces, a line for each frame in order. When the limit is reached and frames are left, one
line stands for all of them.
-/

namespace Unmask.Render

def unavailable : Text := "<signature unavailable>".toList

def frameText (t : Table) (l : Layout) (f : Frame) : Text :=
  match method t l f with
  | .ok text => text
  | .error _ => unavailable

def frameLine (t : Table) (l : Layout) (f : Frame) : Text :=
  l.indent ++ l.linePrefix ++ frameText t l f ++ l.lineSeparator

def cutLine (l : Layout) : Text := l.indent ++ ['.', '.', '.'] ++ l.lineSeparator

/-- The lines of the frames while `left` more are allowed, if they are counted. -/
def frameLines (t : Table) (l : Layout) (left : Option Nat) : List Frame → Text
  | [] => []
  | f :: rest =>
    if left = some 0 then cutLine l
    else frameLine t l f ++ frameLines t l (left.map (· - 1)) rest

def stackTrace (t : Table) (l : Layout) (frames : List Frame) : Text :=
  frameLines t l l.maxFrames frames

/-- A note for a frame whose descriptor cannot be decoded. -/
def frameNote? (f : Frame) : Option Note :=
  match Descriptor.decode f.descriptor with
  | .ok _ => none
  | .error e => some (.signatureUnavailable f.className f.methodName e)

/-- Notes on the frames that a stack trace shows. -/
def stackTraceNotes (l : Layout) (frames : List Frame) : List Note :=
  match l.maxFrames with
  | some n => (frames.take n).filterMap frameNote?
  | none => frames.filterMap frameNote?

end Unmask.Render
