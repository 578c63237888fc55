import Unmask.Mapping.Event
import Unmask.Table.Basic

/-!
Loading a table from a mapping file.

Lines that have to be skipped are reported. A file with a fault gives no table at all; whoever
loads it goes on with an empty one, so that names are shown as they are.
-/

namespace Unmask.Mapping

/-- A table under construction, and the class whose members come next, unless they are skipped. -/
structure Progress where
  table : Table := {}
  owner : Option Text := none

/-- The packages of the two names of a class, if both have one. -/
def packagesOf? (real obfuscated : Text) : Option (Text × Text) :=
  match Name.package? (Name.internal real), Name.package? (Name.internal obfuscated) with
  | some p, some q => some (p, q)
  | _, _ => none

/-- The table after the packages of a class mapping were mapped too, and the notes on that. -/
def derivePackage (t : Table) (real obfuscated : Text) : Table × List Event :=
  match packagesOf? real obfuscated with
  | some (p, q) => (t.addPackage p q, (t.packageNotes p q).map .note)
  | none => (t, [])

/-- Takes in one entry, packages too if `packages` is set. -/
def Progress.step (packages : Bool) (p : Progress) : Entry → Progress × List Event
  | .orphan number content => (p, [.report (.orphanMember number content)])
  | .classLine number content real obfuscated =>
    let (t, events) := if packages then derivePackage p.table real obfuscated else (p.table, [])
    match t.addClass real obfuscated with
    | (u, true) => (⟨u, some real⟩, events)
    | (u, false) =>
      (⟨u, none⟩, events ++ (t.classNotes real obfuscated).map .note
        ++ [.report (.duplicateClass number content)])
  | .member (.field declaration) obfuscated =>
    (p, [.note (.fieldIgnored declaration obfuscated)])
  | .member (.method declaration) obfuscated =>
    match p.owner with
    | some owner =>
      (⟨p.table.addMethod owner obfuscated declaration, p.owner⟩,
        (p.table.methodNotes owner obfuscated declaration).map .note)
    | none => (p, [])

def Progress.run (packages : Bool) (p : Progress) : List Entry → Progress × List Event
  | [] => (p, [])
  | e :: rest =>
    let (q, events) := p.step packages e
    let (r, more) := Progress.run packages q rest
    (r, events ++ more)

/-- Reads a mapping file: what happened on the way, and its table or its first fault. -/
def read (packages : Bool) (s : Source) : List Event × Except LoadError Table :=
  let (es, fault) := entries s
  let (p, events) := Progress.run packages {} es
  match fault with
  | some e => (events, .error e)
  | none =>
    (events ++ [.note (.mappingsRead p.table.classes.size p.table.packages.size)], .ok p.table)

def readStream (packages : Bool) (s : Source) : List Event × Except FileError Table :=
  let (events, r) := read packages s
  (events, r.mapError .stream)

def readPath (open? : Opener) (packages : Bool) (path : Text) :
    List Event × Except FileError Table :=
  match open? path with
  | .error f => ([], .error (.unopened path f))
  | .ok s =>
    let (events, r) := read packages s
    (events, r.mapError (.unread path))

/-- Goes on with an empty table, and reports that, if there is none. -/
def recover : List Event × Except FileError Table → List Event × Table
  | (events, .ok t) => (events, t)
  | (events, .error e) => (events ++ [.report (.loadFailed e)], {})

def load (packages : Bool) (s : Source) : List Event × Table := recover (readStream packages s)

def loadPath (open? : Opener) (packages : Bool) (path : Text) : List Event × Table :=
  recover (readPath open? packages path)

end Unmask.Mapping
