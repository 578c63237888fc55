import Unmask.Proofs.Mapping.Nameless
import Unmask.Proofs.Text.Words

/-!
Line numbers around a method, up to two in front of it and any number behind its parameters. None
of them is taken for a part of the method: the arrow is found behind them all, and what is filed is
the method as it is without them, whatever stands between its parentheses.
-/

namespace Unmask.Mapping

open Name
open Text (IsWord isBlank)

/-- `result name(arguments)`. -/
structure Method where
  result : Text
  name : Text
  arguments : Text
  deriving DecidableEq, Repr

def Method.declaration (m : Method) : Text :=
  m.result ++ ' ' :: m.name ++ '(' :: m.arguments ++ [')']

/-- The parts can be told apart, from each other and from what stands around them. -/
structure Method.WellFormed (m : Method) : Prop where
  result : IsWord m.result
  result_free : ':' ∉ m.result ∧ '(' ∉ m.result
  result_comment : m.result.head? ≠ some '#'
  name : IsWord m.name
  name_free : '(' ∉ m.name
  arguments : ¬arrow <:+: m.arguments

/-- A line number without its colon. -/
def IsNumber (n : Text) : Prop := n ≠ [] ∧ n.all Text.isDigit = true

instance (n : Text) : Decidable (IsNumber n) := inferInstanceAs (Decidable (_ ∧ _))

/-- Line numbers as they stand in front of a method. -/
def numbersBefore (ns : List Text) : Text := ns.flatMap (· ++ [':'])

/-- Line numbers as they stand behind a method. -/
def numbersBehind (ns : List Text) : Text := ns.flatMap (':' :: ·)

def Method.numbered (before behind : List Text) (m : Method) : Text :=
  numbersBefore before ++ m.declaration ++ numbersBehind behind

/-- An indented line that maps the method to `o`, with any line numbers around it. -/
inductive NumberedLine (m : Method) (o : Text) : Text → Prop
  | intro {blanks before behind} (indent : blanks ≠ [] ∧ ∀ c ∈ blanks, isBlank c = true)
    (few : before.length ≤ 2) (before_numbers : ∀ n ∈ before, IsNumber n)
    (behind_numbers : ∀ n ∈ behind, IsNumber n) (obfuscated : o ≠ [] ∧ Text.trim o = o) :
    NumberedLine m o (blanks ++ (m.numbered before behind ++ arrow ++ o))

/-- Line `i` is the first class line for the real name `c` that is no duplicate. -/
def FirstClass (c : Text) (ls : Lines) (i : Nat) : Prop :=
  (∃ o b, ClassAt ls i o b ∧ internal o = c) ∧ ¬Duplicate ls i ∧
    ∀ k < i, ∀ o b, ClassAt ls k o b → internal o = c → Duplicate ls k

variable {n rest word blanks text o c : Text} {ns before behind : List Text} {m : Method}
  {ls : Lines} {i j : Nat}

/-! ### Line numbers -/

lemma IsNumber.not_mem (h : IsNumber n) {c : Char} (hc : Text.isDigit c = false) : c ∉ n :=
  fun hm => by
    rw [List.all_eq_true.1 h.2 c hm] at hc
    cases hc

lemma isBlank_of_isDigit {c : Char} (h : Text.isDigit c = true) : isBlank c = false := by
  have hrange : 48 ≤ c.toNat ∧ c.toNat ≤ 57 := by
    simpa [Text.isDigit, Char.le_def, UInt32.le_iff_toNat_le] using h
  rw [← Bool.not_eq_true]
  simp only [isBlank, Text.inRanges, Text.blankRanges, List.any_cons, List.any_nil,
    Bool.or_eq_true, Bool.and_eq_true, decide_eq_true_eq, Bool.false_eq_true, or_false]
  omega

lemma mem_numbersBefore_iff {c : Char} : c ∈ numbersBefore ns ↔ c ∈ numbersBehind ns := by
  simp [numbersBefore, numbersBehind, or_comm]

lemma of_mem_numbersBehind {c : Char} (h : ∀ n ∈ ns, IsNumber n) (hc : c ∈ numbersBehind ns) :
    c = ':' ∨ Text.isDigit c = true := by
  obtain ⟨n, hn, hc⟩ := List.mem_flatMap.1 hc
  exact (List.mem_cons.1 hc).imp_right (List.all_eq_true.1 (h n hn).2 c)

lemma isBlank_of_mem_numbersBehind {c : Char} (h : ∀ n ∈ ns, IsNumber n)
    (hc : c ∈ numbersBehind ns) : isBlank c = false := by
  rcases of_mem_numbersBehind h hc with rfl | hd
  · decide
  · exact isBlank_of_isDigit hd

namespace Member

lemma dropNumber?_append (h : IsNumber n) (rest : Text) :
    dropNumber? (n ++ ':' :: rest) = some rest := by
  rw [dropNumber?, Text.cutFirst_append rest (h.not_mem (by decide))]
  exact if_pos h

/-- What comes in front of the first colon is no number if there is a space in it. -/
lemma dropNumber?_eq_none (h : ':' ∉ word) (rest : Text) :
    dropNumber? (word ++ ' ' :: rest) = none := by
  rw [dropNumber?]
  rcases hcut : Text.cutFirst ':' (word ++ ' ' :: rest) with _ | ⟨number, more⟩
  · rfl
  · have hspace : ' ' ∈ number := by
      obtain ⟨he, -⟩ := Text.eq_of_cutFirst hcut
      rcases List.append_eq_append_iff.1 he with ⟨w, rfl, hw⟩ | ⟨w, rfl, hw⟩
      · rcases w with _ | ⟨d, w⟩
        · cases hw
        · obtain ⟨rfl, -⟩ := List.cons.inj hw
          simp
      · rcases w with _ | ⟨d, w⟩
        · cases hw
        · obtain ⟨rfl, -⟩ := List.cons.inj hw
          simp at h
    exact if_neg fun hn => IsNumber.not_mem hn (by decide) hspace

lemma dropNumbers_append (hlen : before.length ≤ 2) (h : ∀ n ∈ before, IsNumber n)
    (hrest : dropNumber? rest = none) : dropNumbers (numbersBefore before ++ rest) = rest := by
  rcases before with _ | ⟨x, _ | ⟨y, _ | ⟨z, more⟩⟩⟩
  · show dropNumbers rest = rest
    rw [dropNumbers, hrest]
  · have hx : numbersBefore [x] ++ rest = x ++ ':' :: rest := by simp [numbersBefore]
    rw [hx, dropNumbers, dropNumber?_append (h x (by simp))]
    simp only [hrest, Option.getD_none]
  · have hxy : numbersBefore [x, y] ++ rest = x ++ ':' :: (y ++ ':' :: rest) := by
      simp [numbersBefore]
    rw [hxy, dropNumbers, dropNumber?_append (h x (by simp))]
    simp only [dropNumber?_append (h y (by simp)), Option.getD_some]
  · simp at hlen

lemma isNumbering_numbersBehind (hne : ns ≠ []) (h : ∀ n ∈ ns, IsNumber n) :
    isNumbering (numbersBehind ns) = true := by
  rw [isNumbering, Bool.and_eq_true, List.all_eq_true]
  constructor
  · obtain ⟨n, ns, rfl⟩ := List.exists_cons_of_ne_nil hne
    rfl
  · intro c hc
    simpa using of_mem_numbersBehind h hc

end Member

/-! ### The method -/

namespace Method

lemma declaration_append (m : Method) (s : Text) :
    m.declaration ++ s = m.result ++ ' ' :: m.name ++ '(' :: m.arguments ++ ')' :: s := by
  simp [declaration]

namespace WellFormed

lemma methodName_eq (h : m.WellFormed) : Table.methodName m.declaration = m.name := by
  have hopen : '(' ∉ m.result ++ ' ' :: m.name := by
    simp [h.result_free.2, h.name_free]
  have hend : Text.trimEnd (m.result ++ ' ' :: m.name) = m.result ++ ' ' :: m.name := by
    refine Text.trimEnd_eq_self fun c hc => h.name.free c ?_
    rw [List.append_cons, List.getLast?_append_of_ne_nil _ h.name.ne_nil] at hc
    exact List.mem_of_getLast? hc
  rw [Table.methodName, declaration, List.append_assoc, List.cons_append,
    Text.cutFirst_append _ hopen]
  simp only
  rw [hend, Text.afterLast_append_cons _ (by decide) h.name.free]

/-- The numbers in front and the result are one word. -/
lemma isWord_front (h : m.WellFormed) (hbefore : ∀ n ∈ before, IsNumber n) :
    IsWord (numbersBefore before ++ m.result) where
  ne_nil := List.append_ne_nil_of_right_ne_nil _ h.result.ne_nil
  free c hc := by
    rcases List.mem_append.1 hc with hc | hc
    · exact isBlank_of_mem_numbersBehind hbefore (mem_numbersBefore_iff.1 hc)
    · exact h.result.free c hc

/-- A line that starts with the method is neither indented nor a comment. -/
lemma head?_numbered_append (h : m.WellFormed) (hbefore : ∀ n ∈ before, IsNumber n) {c : Char}
    (hc : (m.numbered before behind ++ rest).head? = some c) : isBlank c = false ∧ c ≠ '#' := by
  have hfront := h.isWord_front hbefore
  have happ : m.numbered before behind ++ rest = (numbersBefore before ++ m.result) ++
      (' ' :: m.name ++ '(' :: m.arguments ++ ')' :: (numbersBehind behind ++ rest)) := by
    simp [numbered, declaration]
  rw [happ, List.head?_append_of_ne_nil _ hfront.ne_nil] at hc
  refine ⟨hfront.free c (List.mem_of_head? hc), ?_⟩
  rintro rfl
  rcases before with _ | ⟨n, ns⟩
  · exact h.result_comment hc
  · have hn := hbefore n List.mem_cons_self
    obtain ⟨d, n, rfl⟩ := List.exists_cons_of_ne_nil hn.1
    obtain rfl : d = '#' := Option.some.inj hc
    exact hn.not_mem (by decide) List.mem_cons_self

lemma trim_numbered (h : m.WellFormed) (hbefore : ∀ n ∈ before, IsNumber n)
    (hbehind : ∀ n ∈ behind, IsNumber n) :
    Text.trim (m.numbered before behind) = m.numbered before behind := by
  refine Text.trim_eq_self (fun c hc => ?_) fun c hc => ?_
  · rw [← List.append_nil (m.numbered before behind)] at hc
    exact (h.head?_numbered_append hbefore hc).1
  · rw [numbered, List.append_assoc, declaration_append, ← List.append_assoc,
      List.getLast?_append_of_ne_nil _ (List.cons_ne_nil _ _)] at hc
    rcases List.mem_cons.1 (List.mem_of_getLast? hc) with rfl | hc
    · decide
    · exact isBlank_of_mem_numbersBehind hbehind hc

/-- The last closing parenthesis is the one of the method, and no numbers are left of it. -/
lemma ofText_numbered (h : m.WellFormed) (hlen : before.length ≤ 2)
    (hbefore : ∀ n ∈ before, IsNumber n) (hbehind : ∀ n ∈ behind, IsNumber n) :
    Member.ofText (m.numbered before behind) = .method m.declaration := by
  have hclose : ')' ∉ numbersBehind behind := fun hc => by
    have hd := of_mem_numbersBehind hbehind hc
    exact absurd hd (by decide)
  have hdrop : Member.dropNumbers (m.numbered before behind) =
      m.result ++ ' ' :: m.name ++ '(' :: m.arguments ++ ')' :: numbersBehind behind := by
    rw [numbered, List.append_assoc, declaration_append]
    refine Member.dropNumbers_append hlen hbefore ?_
    simpa using Member.dropNumber?_eq_none h.result_free.1 _
  rw [Member.ofText, h.trim_numbered hbefore hbehind, hdrop, Text.cutLast_append _ hclose]
  by_cases hne : behind = []
  · rw [hne]
    rfl
  · simp only [Member.isNumbering_numbersBehind hne hbehind, if_true]
    rfl

/-- The first arrow is the one behind the numbers. -/
lemma cutAt_numbered (h : m.WellFormed) (hbefore : ∀ n ∈ before, IsNumber n)
    (hbehind : ∀ n ∈ behind, IsNumber n) (o : Text) :
    Text.CutAt arrow (m.numbered before behind ++ arrow ++ o) (m.numbered before behind) o := by
  have hspace : ' ' ∉ numbersBehind behind := fun hc =>
    absurd (isBlank_of_mem_numbersBehind hbehind hc) (by decide)
  -- one space is not enough for an arrow
  have hhead : ¬arrow <:+: numbersBefore before ++ m.result ++ ' ' :: m.name := fun hin => by
    have hfront := (h.isWord_front hbefore).not_mem (c := ' ') (by decide)
    have hname := h.name.not_mem (c := ' ') (by decide)
    have hcount := hin.sublist.count_le ' '
    rw [List.count_append, List.count_cons_self, List.count_eq_zero_of_not_mem hfront,
      List.count_eq_zero_of_not_mem hname] at hcount
    exact absurd hcount (by decide)
  have hbehind : Text.CutAt arrow (numbersBehind behind ++ arrow ++ o) (numbersBehind behind) o :=
    Text.cutAt_of_not_mem o hspace
  have harguments := hbehind.append_cons (c := ')') (by decide) h.arguments
  have hcut := harguments.append_cons (c := '(') (by decide) hhead
  simpa [numbered, declaration, arrow] using hcut

lemma trim_line (h : m.WellFormed) (hbefore : ∀ n ∈ before, IsNumber n)
    (hblanks : ∀ c ∈ blanks, isBlank c = true) (hne : o ≠ []) (ho : Text.trim o = o) :
    Text.trim (blanks ++ (m.numbered before behind ++ arrow ++ o)) =
      m.numbered before behind ++ arrow ++ o := by
  rw [Text.trim_blanks_append hblanks]
  refine Text.trim_eq_self (fun c hc => ?_) fun c hc => ?_
  · rw [List.append_assoc] at hc
    exact (h.head?_numbered_append hbefore hc).1
  · rw [List.getLast?_append_of_ne_nil _ hne, ← ho] at hc
    exact Text.getLast?_trim hc

/-- The line says what the method is without the numbers. -/
lemma exists_memberAt (h : m.WellFormed) (hw : NumberedLine m o text)
    (hline : ls[j]? = some (.ok text)) :
    ∃ d, MemberAt ls j d o ∧ Member.ofText d = .method m.declaration := by
  obtain @⟨blanks, before, behind, ⟨hindent, hblanks⟩, hlen, hbefore, hbehind, hne, ho⟩ := hw
  have hcontent : Text.trim (blanks ++ (m.numbered before behind ++ arrow ++ o)) =
      m.numbered before behind ++ arrow ++ o := h.trim_line hbefore hblanks hne ho
  have hignored : (Line.ofText (j + 1)
      (blanks ++ (m.numbered before behind ++ arrow ++ o))).isIgnored = false := by
    rw [Line.isIgnored, Line.content_ofText, hcontent, Bool.or_eq_false_iff]
    refine ⟨by simp [arrow], decide_eq_false fun hc => ?_⟩
    rw [List.append_assoc] at hc
    exact (h.head?_numbered_append hbefore hc).2 rfl
  have hindented : (Line.ofText (j + 1)
      (blanks ++ (m.numbered before behind ++ arrow ++ o))).indented = true := by
    obtain ⟨b, blanks, rfl⟩ := List.exists_cons_of_ne_nil hindent
    exact hblanks b List.mem_cons_self
  have hcut := h.cutAt_numbered hbefore hbehind o
  rw [← hcontent] at hcut
  exact ⟨m.numbered before behind, ⟨_, lineAt?_of_getElem? hline hignored, hindented, _, _, hcut,
    h.trim_numbered hbefore hbehind, ho⟩, h.ofText_numbered hlen hbefore hbehind⟩

end WellFormed

end Method

/-! ### The file -/

/-- In the first block of a class, the first line for a method is the first that is heard of it. -/
lemma FirstClass.not_saysMethod (hi : FirstClass c ls i) (hj : InBlock ls i j)
    (hfirst : ∀ k, i < k → k < j → ∀ d e, MemberAt ls k d o → Member.ofText d ≠ .method e) :
    ∀ k < j, ∀ d, ¬SaysMethod c o ls k d := by
  rintro k hkj d ⟨i', r, b, hclass, hdup, hr, ⟨hsome, hik, hn⟩, text, hm, hd⟩
  rcases Nat.lt_trichotomy i' i with hlt | rfl | hgt
  · exact hdup (hi.2.2 i' hlt r b hclass hr)
  · exact hfirst k hik hkj text d hm hd
  · exact hj.2.2 i' hgt (by omega) r b hclass

/-- **Line numbers are no part of a method.** In a file that can be read, the first line for a
method in the first block of its class maps it to the declaration without any line numbers, and the
method is shown by the name in it, whichever of them stand around it. -/
theorem read_numbered {packages : Bool} {bytes : List UInt8} {t : Table}
    (h : (read packages (.bytes bytes)).2 = .ok t) (hm : m.WellFormed)
    (hw : NumberedLine m o text) (hline : (fileLines bytes)[j]? = some (.ok text))
    (hi : FirstClass (internal c) (fileLines bytes) i) (hj : InBlock (fileLines bytes) i j)
    (hfirst : ∀ k, i < k → k < j → ∀ d e, MemberAt (fileLines bytes) k d o →
      Member.ofText d ≠ .method e) :
    t.declaration? c o = some m.declaration ∧ t.showMethod c o = m.name := by
  obtain ⟨d, hat, hd⟩ := hm.exists_memberAt hw hline
  obtain ⟨r, b, hclass, hr⟩ := hi.1
  have hsays : SaysMethod (internal c) o (fileLines bytes) j m.declaration :=
    ⟨i, r, b, hclass, hi.2.1, hr, hj, d, hat, hd⟩
  have hdeclared : t.declaration? c o = some m.declaration :=
    (((read_table_answers h).2 c o).some_iff _).2 ⟨j, hsays, hi.not_saysMethod hj hfirst⟩
  exact ⟨hdeclared, (Table.showMethod_of_some hdeclared).trans hm.methodName_eq⟩

/-- Parts of the method look like line numbers or close its parentheses, but are neither. -/
def numberedFile : List UInt8 :=
  Text.Utf8.encode "A -> a:\n\t7:12:void f:)(a) :3):40:41 -> x\n".toList

theorem read_numberedFile : ∃ t, (read true (.bytes numberedFile)).2 = .ok t ∧
    t.declaration? ['A'] ['x'] = some "void f:)(a) :3)".toList ∧
    t.showMethod ['A'] ['x'] = "f:)".toList := by
  have h : (read true (.bytes numberedFile)).2 =
      .ok ((read true (.bytes numberedFile)).2.toOption.getD {}) := by decide
  have hm : Method.WellFormed ⟨"void".toList, "f:)".toList, "a) :3".toList⟩ :=
    ⟨by decide, by decide, by decide, by decide, by decide, by decide⟩
  have hw : NumberedLine ⟨"void".toList, "f:)".toList, "a) :3".toList⟩ ['x']
      "\t7:12:void f:)(a) :3):40:41 -> x".toList :=
    @NumberedLine.intro _ _ ['\t'] [['7'], ['1', '2']] [['4', '0'], ['4', '1']]
      ⟨by decide, List.forall_mem_singleton.2 (by decide)⟩ (by decide) (by decide) (by decide)
      (by decide)
  have hclass : ClassAt (fileLines numberedFile) 0 ['A'] ['a'] :=
    ⟨Line.ofText 1 "A -> a:".toList, by decide, by decide,
      Line.classNames_eq_ok_iff.1 (by decide)⟩
  have hmember (o b) : ¬ClassAt (fileLines numberedFile) 1 o b := by
    rintro ⟨l, hl, hindented, -⟩
    have hline : lineAt? (fileLines numberedFile) 1 =
        some (Line.ofText 2 "\t7:12:void f:)(a) :3):40:41 -> x".toList) := by decide
    obtain rfl := Option.some.inj (hline.symm.trans hl)
    exact absurd hindented (by decide)
  have hi : FirstClass (internal ['A']) (fileLines numberedFile) 0 :=
    ⟨⟨_, _, hclass, rfl⟩, fun ⟨_, _, _, _, hk, _⟩ => absurd hk (Nat.not_lt_zero _),
      fun k hk => absurd hk (Nat.not_lt_zero k)⟩
  have hj : InBlock (fileLines numberedFile) 0 1 := by
    refine ⟨⟨_, _, hclass⟩, Nat.zero_lt_one, fun k hk hk' o b => ?_⟩
    obtain rfl : k = 1 := by omega
    exact hmember o b
  exact ⟨_, h, read_numbered h hm hw (by decide) hi hj fun k hk hk' => by omega⟩

end Unmask.Mapping
