import Unmask.CommandLine.Arguments
import Unmask.Mapping.Load
import Unmask.Render.Package
import Unmask.Render.Trace

/-!
What a run of the program writes, and its exit code.
-/

namespace Unmask.CommandLine

structure Outcome where
  exitCode : Nat
  stdout : Text
  stderr : Text
  deriving DecidableEq, Repr

/-- An error by its messages, from the outermost to the innermost. -/
def failure : List Text → Text
  | [] => []
  | outer :: causes =>
    let listed :=
      match causes with
      | [] => []
      | [cause] => "\n\nCaused by:\n    ".toList ++ cause
      | causes =>
        "\n\nCaused by:".toList ++ causes.zipIdx.flatMap fun (cause, i) =>
          let n := Text.decimal i
          '\n' :: List.replicate (5 - n.length) ' ' ++ n ++ [':', ' '] ++ cause
    "Error: ".toList ++ outer ++ listed ++ ['\n']

/-- The notes that a command makes, and the text that it answers with or the messages of its
error. -/
def Command.answer (open? : Opener) (stdin : Source) (t : Table) (l : Render.Layout) :
    Command → List Note × Except (List Text) Text
  | method className methodName descriptor =>
    ([], match Descriptor.decode descriptor with
      | .ok s => .ok (Render.signature t l className methodName s ++ ['\n'])
      | .error e => .error [e.message])
  | trace path =>
    let source : Except Frame.ReadError Source :=
      match path with
      | some path => (open? path).mapError (.unopened path)
      | none => .ok stdin
    match source.bind Frame.readAll with
    | .ok frames => (Render.stackTraceNotes l frames, .ok (Render.stackTrace t l frames))
    | .error e => ([], .error e.chain)
  | constants names =>
    ([], .ok (names.flatMap fun c => (t.realConstant? c).getD c ++ ['\n']))
  | packages names => ([], .ok (names.flatMap fun p => Render.package t p ++ ['\n']))

/-- The records that are shown, line by line. -/
def logText (verbosity : Nat) (rs : List Record) : Text :=
  (rs.filter fun r => r.level.threshold ≤ verbosity).flatMap Record.line

def run (open? : Opener) (stdin : Source) (s : Settings) (c : Command) : Outcome :=
  let (events, t) :=
    match s.mapping with
    | some path => Mapping.loadPath open? s.packages path
    | none => ([], {})
  let (notes, answer) := c.answer open? stdin t s.layout
  let log := logText s.verbosity
    (events.map Mapping.Event.record ++ (.mappingsUsed t.classes.size :: notes).map Note.record)
  match answer with
  | .ok text => ⟨0, text, log⟩
  | .error chain => ⟨1, [], log ++ failure chain⟩

/-- The form of the arguments, as it is told on a usage error and on a call for help. -/
def usage : Text :=
  "usage: jfr-retrace [OPTIONS] method CLASS METHOD DESCRIPTOR | trace [FILE] | ".toList
    ++ "constant NAME... | package NAME...\n".toList

def runArguments (open? : Opener) (stdin : Source) (args : List Text) : Outcome :=
  match readArguments args with
  | .ok (s, c) => run open? stdin s c
  | .error .version => ⟨0, "jfr-retrace 0.1.0\n".toList, []⟩
  | .error .help => ⟨0, usage, []⟩
  | .error .usage => ⟨2, [], usage⟩

/-- The paths that a run opens. -/
def pathsOf (args : List Text) : List Text :=
  match readArguments args with
  | .ok (s, .trace path) => s.mapping.toList ++ path.toList
  | .ok (s, _) => s.mapping.toList
  | .error _ => []

/-- The run reads standard input. -/
def readsInput (args : List Text) : Bool :=
  match readArguments args with
  | .ok (_, .trace none) => true
  | _ => false

end Unmask.CommandLine
