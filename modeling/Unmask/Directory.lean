import Unmask.Source

/-!
Opening files by their paths. Faults are worded as the operating system words them.

All of the program takes an `Opener`, whatever it is, and so do the theorems about it. A `Directory`
is the opener for runs that are given their files as data, as tests are: it does what the operating
system does with a path. The program itself has the operating system do it.
-/

namespace Unmask

inductive OpenFault
  | notFound
  | notDirectory
  | nameTooLong
  | denied
  | nulInName
  deriving DecidableEq, Repr

def OpenFault.message : OpenFault → Text
  | notFound => "No such file or directory (os error 2)".toList
  | notDirectory => "Not a directory (os error 20)".toList
  | nameTooLong => "File name too long (os error 36)".toList
  | denied => "Permission denied (os error 13)".toList
  | nulInName => "file name contained an unexpected NUL byte".toList

/-- A way to open paths. -/
abbrev Opener := Text → Except OpenFault Source

/-- The directory that paths are relative to, by the paths of its files. -/
structure Directory where
  files : List (Text × List UInt8)

namespace Directory

/-- The parts of a path between its slashes. -/
def parts (path : Text) : List Text := path.splitOn '/'

/-- What the parts of a path lead to from above the directory, where nothing is known but more
directories on the way up. -/
def resolveAbove : List Text → Except OpenFault Source
  | [] => .ok .directory
  | part :: rest =>
    if part = [] ∨ part = ['.'] ∨ part = ['.', '.'] then resolveAbove rest
    else if 255 < Text.octets part then .error .nameTooLong
    else .error .notFound

/-- What the parts of a path lead to, from a place `below` the directory. A part that is empty or
a dot stays where it is and two dots go up, if that is a directory. -/
def resolve (files : List (List Text × List UInt8)) (below : List Text) :
    List Text → Except OpenFault Source
  | [] =>
    match files.lookup below with
    | some content => .ok (.bytes content)
    | none => .ok .directory
  | part :: rest =>
    if (files.lookup below).isSome then .error .notDirectory
    else if part = [] ∨ part = ['.'] then resolve files below rest
    else if part = ['.', '.'] then
      if below = [] then resolveAbove rest else resolve files below.dropLast rest
    else if 255 < Text.octets part then .error .nameTooLong
    else if files.any fun f => (below ++ [part]).isPrefixOf f.1 then
      resolve files (below ++ [part]) rest
    else .error .notFound

/-- The empty path leads nowhere, and an absolute one starts above the directory. -/
def openPath (d : Directory) : Opener := fun path =>
  if '\x00' ∈ path then .error .nulInName
  else if 4096 ≤ Text.octets path then .error .nameTooLong
  else
    match path with
    | [] => .error .notFound
    | '/' :: rest => resolveAbove (parts rest)
    | _ =>
      resolve (d.files.map fun f => ((parts f.1).filter fun p => p ≠ [] ∧ p ≠ ['.'], f.2)) []
        (parts path)

end Directory

end Unmask
