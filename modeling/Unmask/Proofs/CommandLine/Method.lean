import Unmask.Proofs.CommandLine.Trace
import Unmask.Proofs.Frame.RoundTrip
import Unmask.Proofs.Render.Trace
import Unmask.Proofs.Text.Pieces

/-!
A method asked for by itself, and the same method as the one line of a stack trace. Both are shown
alike, but only in the trace can something be shown of a descriptor that cannot be decoded.
-/

namespace Unmask

open Text (IsWord isBlank)
open Text.Utf8 (encode)

variable {c m d line : Text} {ending : List UInt8} {t : Table} {l : Render.Layout}

/-! ### One line -/

/-- The line is the frame in three words, or in one if that can be told apart again. -/
inductive Frame.Writes : Frame → Text → Prop
  | apart {f} : Writes f f.toText
  | joined {c m r} (hc : '(' ∉ c) (hm : '(' ∉ m) (hdot : '.' ∉ m) :
      Writes ⟨c, m, '(' :: r⟩ (c ++ '.' :: m ++ '(' :: r)

namespace Frame

lemma Writes.spells (hc : IsWord c) (hm : IsWord m) (hd : IsWord d)
    (h : Writes ⟨c, m, d⟩ line) : Spells line ⟨c, m, d⟩ := by
  cases h with
  | apart => exact .apart (OfWords.words_toText ⟨hc, hm, hd⟩)
  | @joined _ _ r hc' hm' hdot =>
    have hrest : ∀ x ∈ '.' :: m ++ '(' :: r, isBlank x = false := by
      intro x hx
      rcases List.mem_append.1 hx with hx | hx
      · rcases List.mem_cons.1 hx with rfl | hx
        · decide
        · exact hm.free x hx
      · exact hd.free x hx
    have hword : IsWord (c ++ '.' :: m ++ '(' :: r) := by
      rw [List.append_assoc]
      exact hc.append hrest
    have hopen : '(' ∉ c ++ '.' :: m := by
      simpa [hc'] using hm'
    exact .joined hword.words_eq hc.ne_nil hm.ne_nil hopen hdot

/-- No white space stands in the line but between words. -/
lemma Writes.eq_space (hc : IsWord c) (hm : IsWord m) (hd : IsWord d)
    (h : Writes ⟨c, m, d⟩ line) {x : Char} (hx : x ∈ line) (hb : isBlank x = true) : x = ' ' := by
  have hc' := hc.not_mem hb
  have hm' := hm.not_mem hb
  have hd' := hd.not_mem hb
  cases h with
  | apart => simpa [toText, hc', hm', hd'] using hx
  | joined =>
    have hdot : x ≠ '.' := by
      rintro rfl
      exact absurd hb (by decide)
    rw [List.mem_append, List.mem_append, List.mem_cons] at hx
    simp [hc', hm', hd', hdot] at hx

lemma Writes.lines_eq (hc : IsWord c) (hm : IsWord m) (hd : IsWord d)
    (h : Writes ⟨c, m, d⟩ line) (he : ending ∈ Text.lineEndings) :
    Text.lines (encode line ++ ending) = [encode line] := by
  have hfree {b : UInt8} (hb : b.toNat < 0x80) (hblank : isBlank (Char.ofNat b.toNat) = true)
      (hne : Char.ofNat b.toNat ≠ ' ') : b ∉ encode line := fun hm' =>
    hne (h.eq_space hc hm hd (Text.Utf8.ofNat_mem_of_mem_encode hm' hb) hblank)
  refine Text.lines_append_ending ?_ (hfree (by decide) (by decide) (by decide))
    (hfree (by decide) (by decide) (by decide)) he
  intro hnil
  have hline : line = [] := by
    have hdecode := Text.Utf8.decode_eq_some_iff.2 hnil
    exact Option.some.inj (hdecode.symm.trans rfl)
  obtain ⟨x, hx, -⟩ := (h.spells hc hm hd).exists_not_blank
  rw [hline] at hx
  cases hx

end Frame

lemma Render.stackTrace_singleton (h : l.maxFrames ≠ some 0) (f : Frame) :
    Render.stackTrace t l [f] = Render.frameLine t l f := by
  rw [Render.stackTrace, Render.frameLines, if_neg h]
  exact List.append_nil _

namespace CommandLine

variable {open? : Opener} {stdin : Source} {s : Settings} {path : Option Text}

/-! ### Two runs -/

/-- A method by itself is shown as a frame of a trace is. -/
lemma answer_method (open? : Opener) (stdin : Source) (t : Table) (l : Render.Layout) :
    (Command.method c m d).answer open? stdin t l =
      ([], match Render.method t l ⟨c, m, d⟩ with
        | .ok text => .ok (text ++ ['\n'])
        | .error e => .error [e.message]) := by
  rcases h : Descriptor.decode d with e | sig
  · rw [Command.answer, h, Render.method_of_error h]
  · rw [Command.answer, h, Render.method_of_decode h]

lemma run_method_of_ok (stdin : Source) {text : Text}
    (h : Render.method (s.table open?) s.layout ⟨c, m, d⟩ = .ok text) :
    run open? stdin s (.method c m d) = ⟨0, text ++ ['\n'], s.log open? []⟩ :=
  run_of_answer (by rw [answer_method, h])

lemma run_method_of_error (stdin : Source) {e : Descriptor.Error}
    (h : Render.method (s.table open?) s.layout ⟨c, m, d⟩ = .error e) :
    run open? stdin s (.method c m d) = ⟨1, [], s.log open? [] ++ failure [e.message]⟩ :=
  run_of_failure (by rw [answer_method, h])

/-- The trace of one frame. -/
lemma run_trace_of_writes (hs : s.maxFrames ≠ some 0) (hc : IsWord c) (hm : IsWord m)
    (hd : IsWord d) (hline : Frame.Writes ⟨c, m, d⟩ line) (he : ending ∈ Text.lineEndings)
    (hin : TraceInput open? stdin (encode line ++ ending) path) :
    (run open? stdin s (.trace path)).exitCode = 0 ∧
    (run open? stdin s (.trace path)).stdout =
      s.indent.getD "    ".toList ++ s.linePrefix.getD "at ".toList ++
        (Render.frameText (s.table open?) s.layout ⟨c, m, d⟩ ++ ['\n']) := by
  have hsaid : List.Forall₂ Frame.Says (Text.lines (encode line ++ ending))
      [some ⟨c, m, d⟩] := by
    rw [hline.lines_eq hc hm hd he]
    exact .cons (.frame (hline.spells hc hm hd)) .nil
  have hasks := s.asks_layout
  have hmax : s.layout.maxFrames ≠ some 0 := by rwa [hasks.maxFrames]
  rw [run_trace_of_said hin hsaid]
  refine ⟨rfl, ?_⟩
  show Render.stackTrace (s.table open?) s.layout [⟨c, m, d⟩] = _
  rw [Render.stackTrace_singleton hmax, Render.frameLine, hasks.indent, hasks.linePrefix,
    hasks.lineSeparator, List.append_assoc]

/-- **A method and a trace of it.** A method that can be decoded is shown by itself as the options
ask for, and in the one line of its trace just so, behind the indentation and the prefix that the
options give. One that cannot be decoded is an error by itself, and in a trace a line without a
signature. -/
theorem run_method_trace (stdin' : Source) (hs : s.maxFrames ≠ some 0) (hc : IsWord c)
    (hm : IsWord m) (hd : IsWord d) (hline : Frame.Writes ⟨c, m, d⟩ line)
    (he : ending ∈ Text.lineEndings)
    (hin : TraceInput open? stdin (encode line ++ ending) path) :
    s.Asks s.layout ∧
    (∀ sig, Descriptor.decode d = .ok sig →
      (run open? stdin' s (.method c m d)).exitCode = 0 ∧
      (run open? stdin' s (.method c m d)).stdout =
        Render.signature (s.table open?) s.layout c m sig ++ ['\n'] ∧
      (run open? stdin s (.trace path)).exitCode = 0 ∧
      (run open? stdin s (.trace path)).stdout =
        s.indent.getD "    ".toList ++ s.linePrefix.getD "at ".toList ++
          (run open? stdin' s (.method c m d)).stdout) ∧
    (∀ e, Descriptor.decode d = .error e →
      (run open? stdin' s (.method c m d)).exitCode = 1 ∧
      (run open? stdin' s (.method c m d)).stdout = [] ∧
      (run open? stdin s (.trace path)).exitCode = 0 ∧
      (run open? stdin s (.trace path)).stdout =
        s.indent.getD "    ".toList ++ s.linePrefix.getD "at ".toList ++
          "<signature unavailable>\n".toList) := by
  obtain ⟨h0, hshown⟩ := run_trace_of_writes hs hc hm hd hline he hin
  refine ⟨s.asks_layout, fun sig hsig => ?_, fun e hdecode => ?_⟩
  · have hmethod : Render.method (s.table open?) s.layout ⟨c, m, d⟩ =
        .ok (Render.signature (s.table open?) s.layout c m sig) := Render.method_of_decode hsig
    have hrun := run_method_of_ok stdin' hmethod
    refine ⟨by rw [hrun], by rw [hrun], h0, ?_⟩
    rw [hshown, hrun, Render.frameText, hmethod]
  · have hmethod : Render.method (s.table open?) s.layout ⟨c, m, d⟩ = .error e :=
      Render.method_of_error hdecode
    have hrun := run_method_of_error stdin' hmethod
    refine ⟨by rw [hrun], by rw [hrun], h0, ?_⟩
    rw [hshown, Render.frameText, hmethod]
    rfl

/-- A mapping file `m`, and a stack trace `t` of a method that it maps. -/
def shapeFiles : Opener
  | ['m'] => .ok (.bytes (encode "p.Shape -> a.b:\n  void f(int) -> x\n".toList))
  | ['t'] => .ok (.bytes (encode "a/b.x(I)V".toList ++ [0x0d, 0x0a]))
  | _ => .error .notFound

/-- Without packages, and with an indentation and a prefix of its own. -/
def shapeSettings : Settings :=
  { mapping := some ['m'], short := true, indent := some ['\t'], linePrefix := some [] }

theorem run_method_trace_shape :
    (run shapeFiles .directory shapeSettings
      (.method "a/b".toList ['x'] "(I)V".toList)).stdout = "void Shape.f(int)\n".toList ∧
    (run shapeFiles .directory shapeSettings
      (.trace (some ['t']))).stdout = "\tvoid Shape.f(int)\n".toList ∧
    (run shapeFiles (.bytes (encode "a/b x (?".toList)) { maxFrames := some 1 }
      (.trace none)).stdout = "    at <signature unavailable>\n".toList := by
  have hshown : (run shapeFiles .directory shapeSettings
      (.method "a/b".toList ['x'] "(I)V".toList)).stdout = "void Shape.f(int)\n".toList := by
    decide +kernel
  have hok : Descriptor.decode "(I)V".toList = .ok ⟨[.primitive .int], .primitive .void⟩ := by
    decide +kernel
  have herror : Descriptor.decode "(?".toList = .error ⟨"(?".toList, 2, .missingParameterList⟩ := by
    decide +kernel
  have hjoined : Frame.Writes ⟨"a/b".toList, ['x'], "(I)V".toList⟩ "a/b.x(I)V".toList :=
    .joined (c := "a/b".toList) (m := ['x']) (r := "I)V".toList) (by decide) (by decide) (by decide)
  have happart : Frame.Writes ⟨"a/b".toList, ['x'], "(?".toList⟩ "a/b x (?".toList := .apart
  have hfile : TraceInput shapeFiles .directory (encode "a/b.x(I)V".toList ++ [0x0d, 0x0a])
      (some ['t']) := rfl
  have hinput : TraceInput shapeFiles (.bytes (encode "a/b x (?".toList))
      (encode "a/b x (?".toList ++ []) none := rfl
  obtain ⟨-, hsame, -⟩ := run_method_trace (s := shapeSettings) .directory
    (by decide) (by decide) (by decide) (by decide) hjoined (by decide) hfile
  obtain ⟨-, -, hnone⟩ := run_method_trace (s := { maxFrames := some 1 }) .directory
    (by decide) (by decide) (by decide) (by decide) happart (by decide) hinput
  refine ⟨hshown, ?_, (hnone _ herror).2.2.2⟩
  rw [(hsame _ hok).2.2.2, hshown]
  rfl

end CommandLine

end Unmask
