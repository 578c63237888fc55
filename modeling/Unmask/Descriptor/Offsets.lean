import Unmask.Descriptor.Reader

/-!
Reading descriptors by offsets. Nothing is taken off the text: a reader is told where to begin and
where to stop, cuts what it looks at out of the whole text, and says how far it got. Offsets are
counted in octets, so a cut can go wrong: it may run backwards, leave the text or split a character,
and then the reading crashes. Every call of the reader of one type and every cut goes on record.
-/

namespace Unmask

namespace Text

/-- The first `n` octets and the rest, if the `n` octets are whole characters. -/
def splitOctets? : Nat → Text → Option (Text × Text)
  | 0, s => some ([], s)
  | _ + 1, [] => none
  | n + 1, c :: r =>
    if c.utf8Size ≤ n + 1 then
      (splitOctets? (n + 1 - c.utf8Size) r).map fun p => (c :: p.1, p.2)
    else none

/-- The part of the text from one offset to another. -/
def cutOut? (s : Text) (start stop : Nat) : Option Text :=
  if start ≤ stop then
    (splitOctets? start s).bind fun p => (splitOctets? (stop - start) p.2).map Prod.fst
  else none

/-- The offset of the first `c`. -/
def findFirst? (c : Char) (s : Text) : Option Nat := (cutFirst c s).map fun p => octets p.1

/-- The offset of the last `c`. -/
def findLast? (c : Char) (s : Text) : Option Nat := (cutLast c s).map fun p => octets p.1

end Text

namespace Descriptor

inductive Step
  /-- Reading one type from `position` on that ends at `stop` or before, inside `depth` arrays. -/
  | call (position stop depth : Nat)
  | cut (start stop : Nat)
  deriving DecidableEq, Repr

inductive Outcome (α : Type)
  | result (a : α)
  | error (e : Error)
  | crash
  deriving DecidableEq, Repr

/-- What is read, and the steps that were taken to read it. -/
structure Reading (α : Type) where
  steps : List Step
  outcome : Outcome α
  deriving DecidableEq, Repr

namespace Reading

/-- What comes first, and unless it goes wrong what comes of it. -/
def bind {α β : Type} (x : Reading α) (f : α → Reading β) : Reading β :=
  match x.outcome with
  | .result a => ⟨x.steps ++ (f a).steps, (f a).outcome⟩
  | .error e => ⟨x.steps, .error e⟩
  | .crash => ⟨x.steps, .crash⟩

instance : Monad Reading where
  pure a := ⟨[], .result a⟩
  bind := bind

def record (s : Step) : Reading Unit := ⟨[s], .result ()⟩

def fail {α : Type} (e : Error) : Reading α := ⟨[], .error e⟩

def cut (s : Text) (start stop : Nat) : Reading Text :=
  ⟨[.cut start stop],
    match s.cutOut? start stop with
    | some part => .result part
    | none => .crash⟩

end Reading

open Reading

/-- Reads a class whose letter is at `position`, and says where it ends. -/
def readObjectAt (d : Text) (position stop : Nat) : Reading (JavaType × Nat) := do
  let rest ← cut d (position + 1) stop
  match rest.findFirst? ';' with
  | none => fail ⟨d, position, .unterminatedClass⟩
  | some length =>
    if length = 0 then fail ⟨d, position, .emptyClassName⟩
    else
      let name ← cut d (position + 1) (position + 1 + length)
      return (.object name, position + 1 + length + 1)

/-- Reads one type and says where it ends. -/
def readTypeAt (d : Text) (position stop depth : Nat) : Reading (JavaType × Nat) := do
  record (.call position stop depth)
  let part ← cut d position stop
  match part.head? with
  | none => fail ⟨d, position, if depth = 0 then .missingReturnType else .danglingArray⟩
  | some c =>
    if c = '[' then
      if maxLevels ≤ depth then fail ⟨d, position, .tooManyDimensions⟩
      else
        let (element, next) ← readTypeAt d (position + 1) stop (depth + 1)
        if element.isVoid then fail ⟨d, position + 1, .misplacedVoid⟩
        else return (.array element, next)
    else if c = 'L' then readObjectAt d position stop
    else
      match Primitive.ofCode? c with
      | none => fail ⟨d, position, .unknownCode c⟩
      | some p => return (.primitive p, position + c.utf8Size)
termination_by maxLevels - depth

/-- Reads parameters from `cursor` up to `close`, and says where it stopped. -/
def readParametersAt (d : Text) (close cursor : Nat) : Reading (List JavaType × Nat) := do
  if cursor < close then
    let (t, next) ← readTypeAt d cursor close 0
    if next ≤ cursor then fail ⟨d, cursor, .noProgress⟩
    else if t.isVoid then fail ⟨d, cursor, .misplacedVoid⟩
    else
      let (ts, last) ← readParametersAt d close next
      return (t :: ts, last)
  else return ([], cursor)
termination_by close - cursor

/-- Reads one type from `position` up to the end of the text. -/
def readWholeAt (d : Text) (position : Nat) : Reading JavaType := do
  let (t, next) ← readTypeAt d position d.octets 0
  if next = d.octets then return t
  else
    let rest ← cut d next d.octets
    fail ⟨d, next, .trailingInput rest⟩

def decodeTypeAt (d : Text) : Reading JavaType := readWholeAt d 0

def decodeAt (d : Text) : Reading Signature :=
  if d.head? = some '(' then
    match d.findLast? ')' with
    | none => fail ⟨d, d.octets, .missingParameterList⟩
    | some close => do
      let (ts, _) ← readParametersAt d close 1
      let t ← readWholeAt d (close + 1)
      return ⟨ts, t⟩
  else fail ⟨d, 0, .missingParameterList⟩

end Descriptor

end Unmask
