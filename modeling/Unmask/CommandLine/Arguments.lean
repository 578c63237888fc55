import Unmask.Render.Layout

/-!
The command line: options, then one command with its operands.

An option has a long name, and some have a letter. Letters may stand together behind one `-`. A
value follows as the next argument, behind `=`, or right behind a letter; as an argument of its
own it must not look like an option.

Arguments are read from left to right, and a call for help or for the version is heeded where it
stands: what is wrong in front of it is a usage error, and what is wrong behind it is not seen.
-/

namespace Unmask.CommandLine

inductive Flag
  | verbose | mapping | packages | noReturnType | noClass | noArguments | short | maxFrames
  | indent | linePrefix | version | help
  deriving DecidableEq, Repr

namespace Flag

def ofName? (name : Text) : Option Flag :=
  List.lookup name
    [("verbose".toList, verbose), ("mapping".toList, mapping), ("packages".toList, packages),
      ("no-return-type".toList, noReturnType), ("no-class".toList, noClass),
      ("no-arguments".toList, noArguments), ("short".toList, short),
      ("max-frames".toList, maxFrames), ("indent".toList, indent),
      ("prefix".toList, linePrefix), ("version".toList, version), ("help".toList, help)]

def ofLetter? : Char → Option Flag
  | 'v' => some verbose
  | 'm' => some mapping
  | 's' => some short
  | 'V' => some version
  | 'h' => some help
  | _ => none

def takesValue : Flag → Bool
  | mapping | maxFrames | indent | linePrefix => true
  | _ => false

end Flag

structure Settings where
  verbosity : Nat := 0
  mapping : Option Text := none
  packages : Bool := false
  noReturnType : Bool := false
  noClass : Bool := false
  noArguments : Bool := false
  short : Bool := false
  maxFrames : Option Nat := none
  indent : Option Text := none
  linePrefix : Option Text := none
  deriving DecidableEq, Repr

/-- A number of 64 bits in decimal, with at most one plus sign in front. -/
def number? (s : Text) : Option Nat :=
  let digits := match s with
    | '+' :: r => r
    | _ => s
  if digits ≠ [] ∧ digits.all Text.isDigit then
    let n := Nat.ofDigitChars 10 digits 0
    if n < UInt64.size then some n else none
  else none

namespace Settings

/-- The settings with an option and, if it takes one, its value. -/
def set? (s : Settings) (value : Text) : Flag → Option Settings
  | .verbose => some { s with verbosity := s.verbosity + 1 }
  | .mapping => if value = [] then none else some { s with mapping := some value }
  | .packages => some { s with packages := true }
  | .noReturnType => some { s with noReturnType := true }
  | .noClass => some { s with noClass := true }
  | .noArguments => some { s with noArguments := true }
  | .short => some { s with short := true }
  | .maxFrames => (number? value).map fun n => { s with maxFrames := some n }
  | .indent => some { s with indent := some value }
  | .linePrefix => some { s with linePrefix := some value }
  | .version | .help => some s

def layout (s : Settings) : Render.Layout :=
  let l : Render.Layout :=
    { showReturnType := !s.noReturnType
      showClass := !s.noClass
      showArguments := !s.noArguments
      maxFrames := s.maxFrames
      indent? := s.indent
      linePrefix? := s.linePrefix }
  if s.short then l.unqualified else l

end Settings

inductive Command
  | method (className methodName descriptor : Text)
  | trace (path : Option Text)
  | constants (names : List Text)
  | packages (names : List Text)
  deriving DecidableEq, Repr

/-- Reasons not to go on to the command. -/
inductive Stop
  | usage
  | version
  | help
  deriving DecidableEq, Repr

def Flag.stop? : Flag → Option Stop
  | version => some .version
  | help => some .help
  | _ => none

/-- Options read so far. Only `verbose` may be given again. -/
structure Given where
  settings : Settings := {}
  flags : List Flag := []

def Given.add (g : Given) (f : Flag) (value : Text) : Except Stop Given :=
  match f.stop? with
  | some stop => .error stop
  | none =>
    if f ∈ g.flags ∧ f ≠ .verbose then .error .usage
    else
      match g.settings.set? value f with
      | some s => .ok ⟨s, f :: g.flags⟩
      | none => .error .usage

/-- Reads an option by its long name, with its value if that is attached. An option that still
needs its value comes second. -/
def readLong (g : Given) (s : Text) : Except Stop (Given × Option Flag) :=
  let (name, value) := match Text.cutFirst '=' s with
    | some (name, value) => (name, some value)
    | none => (s, none)
  match Flag.ofName? name with
  | none => .error .usage
  | some f =>
    match f.takesValue, value with
    | true, none => .ok (g, some f)
    | true, some v => (g.add f v).map (·, none)
    | false, none => (g.add f []).map (·, none)
    | false, some _ => .error .usage

/-- Reads options by their letters, in the same way. -/
def readLetters (g : Given) : Text → Except Stop (Given × Option Flag)
  | [] => .ok (g, none)
  | c :: r =>
    match Flag.ofLetter? c with
    | none => .error .usage
    | some f =>
      if f.takesValue then
        match r with
        | [] => .ok (g, some f)
        | '=' :: v => (g.add f v).map (·, none)
        | v => (g.add f v).map (·, none)
      else
        match g.add f [] with
        | .ok g => readLetters g r
        | .error e => .error e

/-- A dash and more. -/
def looksLikeOption : Text → Bool
  | '-' :: _ :: _ => true
  | _ => false

/-- The only option that a command has. -/
def asksForHelp : Text → Bool
  | ['-', '-', 'h', 'e', 'l', 'p'] => true
  | '-' :: 'h' :: _ => true
  | _ => false

/-- The operands of a command, of which `front` are read. Behind `--` every argument is one. -/
def operands (admits : List Text → Bool) (front : List Text) : List Text → Except Stop (List Text)
  | [] => .ok front
  | a :: r =>
    if a = ['-', '-'] then .ok (front ++ r)
    else if looksLikeOption a then
      .error (if asksForHelp a && admits front then .help else .usage)
    else operands admits (front ++ [a]) r

def Command.ofOperands? (name : Text) (operands : List Text) : Option Command :=
  if name = "method".toList then
    match operands with
    | [className, methodName, descriptor] => some (method className methodName descriptor)
    | _ => none
  else if name = "trace".toList then
    match operands with
    | [] => some (trace none)
    | [path] => if path = [] then none else some (trace (some path))
    | _ => none
  else if name = "constant".toList then
    if operands = [] then none else some (constants operands)
  else if name = "package".toList then
    if operands = [] then none else some (packages operands)
  else none

/-- These may be the first operands of the command. -/
def Command.admits (name : Text) (operands : List Text) : Bool :=
  if name = "method".toList then operands.length ≤ 3
  else if name = "trace".toList then operands.length ≤ 1 && !operands.any List.isEmpty
  else name = "constant".toList || name = "package".toList

/-- What may stand behind `help`: nothing, or one command. -/
def isHelpTopic : List Text → Bool
  | [] => true
  | [name] => ["method", "trace", "constant", "package", "help"].any fun s => name = s.toList
  | _ => false

/-- Reads the arguments behind the options `g`, of which `pending` still needs its value. -/
def readFrom (g : Given) (pending : Option Flag) : List Text → Except Stop (Settings × Command)
  | [] => .error .usage
  | a :: r =>
    match pending with
    | some f =>
      if looksLikeOption a then .error .usage
      else
        match g.add f a with
        | .ok g => readFrom g none r
        | .error e => .error e
    | none =>
      if looksLikeOption a then
        let read := match a with
          | _ :: '-' :: long => readLong g long
          | a => readLetters g a.tail
        match read with
        | .ok (g, pending) => readFrom g pending r
        | .error e => .error e
      else if a = "help".toList then .error (if isHelpTopic r then .help else .usage)
      else
        match operands (Command.admits a) [] r with
        | .error e => .error e
        | .ok os =>
          match Command.ofOperands? a os with
          | some c => .ok (g.settings, c)
          | none => .error .usage

def readArguments (args : List Text) : Except Stop (Settings × Command) := readFrom {} none args

end Unmask.CommandLine
