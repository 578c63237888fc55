import Unmask.CommandLine.Run
import Unmask.Proofs.Frame.Reading

/-!
What a run makes of a stack trace. It is shown whole or not at all: with a frame that cannot be
read in it, the run says which line that is, and writes nothing else.
-/

namespace Unmask.CommandLine

open Unmask.Frame (Says Faulty)

/-- The layout is the one that the options ask for. Where they say nothing all is shown, with
packages, and a line of a stack trace starts with four spaces and `at`. -/
structure Settings.Asks (s : Settings) (l : Render.Layout) : Prop where
  showReturnType : l.showReturnType = !s.noReturnType
  showClass : l.showClass = !s.noClass
  showArguments : l.showArguments = !s.noArguments
  qualifyReturnType : l.qualifyReturnType = !s.short
  qualifyClass : l.qualifyClass = !s.short
  qualifyArguments : l.qualifyArguments = !s.short
  maxFrames : l.maxFrames = s.maxFrames
  indent : l.indent = s.indent.getD "    ".toList
  linePrefix : l.linePrefix = s.linePrefix.getD "at ".toList
  lineSeparator : l.lineSeparator = ['\n']

lemma Settings.asks_layout (s : Settings) : s.Asks s.layout := by
  unfold Settings.layout
  rcases hs : s.short with _ | _
  · constructor <;> simp [hs, Render.Layout.indent, Render.Layout.linePrefix,
      Render.Layout.lineSeparator]
  · constructor <;> simp [hs, Render.Layout.unqualified, Render.Layout.indent,
      Render.Layout.linePrefix, Render.Layout.lineSeparator]

/-- What happens while the mapping file is read, and the table that the run goes by. -/
def Settings.loaded (open? : Opener) (s : Settings) : List Mapping.Event × Table :=
  match s.mapping with
  | some path => Mapping.loadPath open? s.packages path
  | none => ([], {})

def Settings.table (open? : Opener) (s : Settings) : Table := (s.loaded open?).2

/-- The log of a run whose command makes these notes. -/
def Settings.log (open? : Opener) (s : Settings) (notes : List Note) : Text :=
  logText s.verbosity ((s.loaded open?).1.map Mapping.Event.record ++
    (.mappingsUsed (s.table open?).classes.size :: notes).map Note.record)

/-- The octets that a stack trace is read from: those of a file if one is named. -/
def TraceInput (open? : Opener) (stdin : Source) (bytes : List UInt8) : Option Text → Prop
  | none => stdin = .bytes bytes
  | some path => open? path = .ok (.bytes bytes)

variable {open? : Opener} {stdin : Source} {s : Settings} {c : Command} {notes : List Note}
  {path : Option Text} {bytes : List UInt8}

lemma run_eq : run open? stdin s c =
    match (c.answer open? stdin (s.table open?) s.layout).2 with
    | .ok text => ⟨0, text, s.log open? (c.answer open? stdin (s.table open?) s.layout).1⟩
    | .error chain =>
      ⟨1, [], s.log open? (c.answer open? stdin (s.table open?) s.layout).1 ++ failure chain⟩ :=
  rfl

lemma run_of_answer {text : Text}
    (h : c.answer open? stdin (s.table open?) s.layout = (notes, .ok text)) :
    run open? stdin s c = ⟨0, text, s.log open? notes⟩ := by
  rw [run_eq, h]

lemma run_of_failure {chain : List Text}
    (h : c.answer open? stdin (s.table open?) s.layout = (notes, .error chain)) :
    run open? stdin s c = ⟨1, [], s.log open? notes ++ failure chain⟩ := by
  rw [run_eq, h]

variable {t : Table} {l : Render.Layout}

lemma answer_trace (h : TraceInput open? stdin bytes path) :
    (Command.trace path).answer open? stdin t l = match Frame.readAll (.bytes bytes) with
      | .ok frames => (Render.stackTraceNotes l frames, .ok (Render.stackTrace t l frames))
      | .error e => ([], .error e.chain) := by
  cases path with
  | none =>
    obtain rfl : stdin = .bytes bytes := h
    rfl
  | some path =>
    have hopen : open? path = .ok (.bytes bytes) := h
    simp only [Command.answer, hopen]
    rfl

/-- The frames are shown if each line says something. -/
lemma run_trace_of_said (h : TraceInput open? stdin bytes path) {said : List (Option Frame)}
    (hsaid : List.Forall₂ Says (Text.lines bytes) said) :
    run open? stdin s (.trace path) =
      ⟨0, Render.stackTrace (s.table open?) s.layout said.reduceOption,
        s.log open? (Render.stackTraceNotes s.layout said.reduceOption)⟩ := by
  refine run_of_answer ?_
  rw [answer_trace h, Frame.readAll_of_said hsaid]

lemma run_trace_of_faulty (h : TraceInput open? stdin bytes path)
    {above below : List (List UInt8)} {line : List UInt8} {messages : List Text}
    (hlines : Text.lines bytes = above ++ line :: below)
    (habove : ∀ l ∈ above, ∃ said?, Says l said?) (hf : Faulty (above.length + 1) line messages) :
    run open? stdin s (.trace path) = ⟨1, [], s.log open? [] ++ failure messages⟩ := by
  obtain ⟨e, he, rfl⟩ := Frame.readAll_of_faulty hlines habove hf
  refine run_of_failure ?_
  rw [answer_trace h, he]

/-- **All of a stack trace or nothing.** The run succeeds just if each line is blank or a frame, and
then it shows these frames in their order and as the options ask for, whether or not their
descriptors can be decoded. Else it fails without output, and names the first line that is
neither. -/
theorem run_trace (h : TraceInput open? stdin bytes path) :
    s.Asks s.layout ∧
    ((run open? stdin s (.trace path)).exitCode = 0 ↔
      ∀ line ∈ Text.lines bytes, ∃ said?, Says line said?) ∧
    (∀ said, List.Forall₂ Says (Text.lines bytes) said →
      (run open? stdin s (.trace path)).stdout =
        Render.stackTrace (s.table open?) s.layout said.reduceOption) ∧
    ((run open? stdin s (.trace path)).exitCode ≠ 0 →
      ∃ above line below messages, Text.lines bytes = above ++ line :: below ∧
        (∀ l ∈ above, ∃ said?, Says l said?) ∧ Faulty (above.length + 1) line messages ∧
        run open? stdin s (.trace path) = ⟨1, [], s.log open? [] ++ failure messages⟩) := by
  have hshown (said) (hsaid : List.Forall₂ Says (Text.lines bytes) said) :
      (run open? stdin s (.trace path)).stdout =
        Render.stackTrace (s.table open?) s.layout said.reduceOption := by
    rw [run_trace_of_said h hsaid]
  rcases Frame.all_says_or_exists_faulty 1 (Text.lines bytes) with
    hall | ⟨above, line, below, messages, hlines, habove, hf⟩
  · obtain ⟨said, hsaid⟩ := Frame.exists_said hall
    have h0 : (run open? stdin s (.trace path)).exitCode = 0 := by rw [run_trace_of_said h hsaid]
    exact ⟨s.asks_layout, ⟨fun _ => hall, fun _ => h0⟩, hshown, fun hne => (hne h0).elim⟩
  · have hrun := run_trace_of_faulty (s := s) h hlines habove hf
    refine ⟨s.asks_layout, ⟨fun h0 => ?_, fun hall => ?_⟩, hshown, fun _ => ?_⟩
    · rw [hrun] at h0
      cases h0
    · obtain ⟨said?, hs⟩ := hall line (by rw [hlines]; simp)
      exact (hf.not_said hs).elim
    · exact ⟨above, line, below, messages, hlines, habove, hf, hrun⟩

def noFiles : Opener := fun _ => .error .notFound

/-- A frame, a blank line, and a frame whose descriptor cannot be decoded. -/
def oddTrace : List UInt8 := Text.Utf8.encode "a/b x ()V\r\n\n a.b.y(? \n".toList

/-- A fourth line has no descriptor. -/
def brokenTrace : List UInt8 := oddTrace ++ Text.Utf8.encode "z\n".toList

theorem run_trace_brokenTrace :
    (run noFiles (.bytes oddTrace) {} (.trace none)).stdout =
      "    at void a.b.x()\n    at <signature unavailable>\n".toList ∧
    ∃ above line below messages, Text.lines brokenTrace = above ++ line :: below ∧
      (∀ l ∈ above, ∃ said?, Says l said?) ∧ Faulty (above.length + 1) line messages ∧
      failure messages = "Error: in line 4\n\nCaused by:\n".toList ++
        "    method reference \"z\" has no descriptor\n".toList := by
  have hsaid : List.Forall₂ Says (Text.lines oddTrace)
      [some ⟨"a/b".toList, ['x'], "()V".toList⟩, none,
        some ⟨"a.b".toList, ['y'], "(?".toList⟩] := by
    have hlines : Text.lines oddTrace = [Text.Utf8.encode "a/b x ()V".toList,
      Text.Utf8.encode [], Text.Utf8.encode " a.b.y(? ".toList] := by decide
    rw [hlines]
    refine .cons (.frame (.apart ?_)) (.cons (.blank ?_) (.cons (.frame ?_) .nil))
    · decide
    · exact List.forall_mem_nil _
    · exact .joined (c := "a.b".toList) (by decide) (by decide) (by decide) (by decide) (by decide)
  have hodd : TraceInput noFiles (.bytes oddTrace) oddTrace none := rfl
  have hbroken : TraceInput noFiles (.bytes brokenTrace) brokenTrace none := rfl
  obtain ⟨-, -, hshown, -⟩ := run_trace (s := {}) hodd
  -- the fault is found though it lies behind the frames that are shown
  obtain ⟨-, -, -, hfailed⟩ := run_trace (s := { maxFrames := some 1 }) hbroken
  have hrun : run noFiles (.bytes brokenTrace) { maxFrames := some 1 } (.trace none) =
      ⟨1, [], "Error: in line 4\n\nCaused by:\n".toList ++
        "    method reference \"z\" has no descriptor\n".toList⟩ := by decide +kernel
  refine ⟨(hshown _ hsaid).trans (by decide +kernel), ?_⟩
  obtain ⟨above, line, below, messages, hlines, habove, hf, hfailure⟩ :=
    hfailed (by rw [hrun]; decide)
  refine ⟨above, line, below, messages, hlines, habove, hf, ?_⟩
  exact (congrArg Outcome.stderr (hrun.symm.trans hfailure)).symm

end Unmask.CommandLine
