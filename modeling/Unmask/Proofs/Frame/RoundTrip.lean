import Unmask.Proofs.Frame.Spelling

/-!
Writing a frame and reading it again. What is read has words for its three parts, and just such a
frame comes back from what it is written as. The joined form is another way to write the same.
-/

namespace Unmask.Frame

open Text (IsWord Spaced words)

/-- All three parts are words. -/
structure OfWords (f : Frame) : Prop where
  className : IsWord f.className
  methodName : IsWord f.methodName
  descriptor : IsWord f.descriptor

/-- The text is a class, a method and a descriptor, joined so that they can be told apart. -/
structure Joins (j c m d : Text) : Prop where
  eq : j = c ++ '.' :: m ++ d
  className : c ≠ []
  methodName : m ≠ []
  dot : '.' ∉ m
  openClass : '(' ∉ c
  openMethod : '(' ∉ m
  descriptor : d.head? = some '('

variable {s j c m d c' m' d' : Text} {f : Frame}

/-! ### Three words -/

lemma OfWords.words_toText (h : f.OfWords) :
    words f.toText = [f.className, f.methodName, f.descriptor] := by
  have hblank : Text.isBlank ' ' = true := by decide
  show words (f.className ++ ' ' :: f.methodName ++ ' ' :: f.descriptor) = _
  rw [Text.words_append_cons hblank, Text.words_append_cons hblank, h.className.words_eq,
    h.methodName.words_eq, h.descriptor.words_eq]
  rfl

lemma OfWords.parse_toText (h : f.OfWords) : parse f.toText = .ok f :=
  parse_eq_ok_iff.2 (.apart h.words_toText)

/-! ### The joined form -/

lemma Joins.exists_eq (h : Joins j c m d) : ∃ r, d = '(' :: r :=
  List.head?_eq_some_iff.1 h.descriptor

/-- The first `(` and the last dot before it are where the three meet. -/
lemma Joins.ofJoined_eq (h : Joins j c m d) : ofJoined j = .ok ⟨c, m, d⟩ := by
  obtain ⟨r, rfl⟩ := h.exists_eq
  have hopen : '(' ∉ c ++ '.' :: m := by
    simpa [h.openClass] using h.openMethod
  rw [h.eq]
  exact ofJoined_append h.className h.methodName hopen h.dot r

lemma joins_of_ofJoined (h : ofJoined j = .ok f) :
    Joins j f.className f.methodName f.descriptor := by
  obtain ⟨r, hj, hd, hc, hm, hopen, hdot⟩ := of_ofJoined h
  simp only [List.mem_append, List.mem_cons, not_or] at hopen
  exact ⟨by rw [hj, hd], hc, hm, hdot, hopen.1, hopen.2.2, by rw [hd]; rfl⟩

lemma Joins.unique (h : Joins j c m d) (h' : Joins j c' m' d') : c' = c ∧ m' = m ∧ d' = d := by
  have hsame := h'.ofJoined_eq.symm.trans h.ofJoined_eq
  simpa using hsame

/-- The parts of a word are words. -/
lemma Joins.ofWords (h : Joins j c m d) (hj : IsWord j) : OfWords ⟨c, m, d⟩ := by
  have hd : d ≠ [] := by
    obtain ⟨r, rfl⟩ := h.exists_eq
    exact List.cons_ne_nil '(' r
  rw [h.eq] at hj
  refine ⟨hj.of_subset h.className fun x hx => ?_, hj.of_subset h.methodName fun x hx => ?_,
    hj.of_subset hd fun x hx => ?_⟩ <;> simp [hx]

lemma ofWords_of_parse (h : parse s = .ok f) : f.OfWords := by
  cases parse_eq_ok_iff.1 h with
  | apart hw =>
    have hspaced := Text.words_eq_iff.1 hw
    exact ⟨hspaced.isWord (by simp), hspaced.isWord (by simp), hspaced.isWord (by simp)⟩
  | @joined c m r hw hc hm hopen hdot =>
    have hword := (Text.words_eq_iff.1 hw).isWord List.mem_cons_self
    exact (joins_of_ofJoined (ofJoined_append hc hm hopen hdot r)).ofWords hword

/-- **Writing and reading a frame.** What is read of a text has three words for its parts, and is
read again from what it is written as. That happens to a frame exactly if all its parts are words,
whatever else they hold. -/
theorem parse_inverse_toText :
    (∀ s f, parse s = .ok f → f.OfWords ∧ parse f.toText = .ok f) ∧
    ∀ f, parse f.toText = .ok f ↔ f.OfWords := by
  constructor
  · intro s f h
    have hwords := ofWords_of_parse h
    exact ⟨hwords, hwords.parse_toText⟩
  · exact fun f => ⟨ofWords_of_parse, OfWords.parse_toText⟩

/-- A frame that is joined, with dots in its descriptor, and one with a space in its method. -/
theorem parse_toText_joined :
    parse "a.C.<init>(La.b;)V".toList = .ok ⟨"a.C".toList, "<init>".toList, "(La.b;)V".toList⟩ ∧
    parse "a.C <init> (La.b;)V".toList = .ok ⟨"a.C".toList, "<init>".toList, "(La.b;)V".toList⟩ ∧
    parse (toText ⟨"a.C".toList, "m n".toList, "()V".toList⟩) ≠
      .ok ⟨"a.C".toList, "m n".toList, "()V".toList⟩ := by
  have hjoined : parse "a.C.<init>(La.b;)V".toList =
      .ok ⟨"a.C".toList, "<init>".toList, "(La.b;)V".toList⟩ :=
    parse_eq_ok_iff.2 (.joined (c := "a.C".toList) (m := "<init>".toList) (r := "La.b;)V".toList)
      (by decide) (by decide) (by decide) (by decide) (by decide))
  obtain ⟨hback, hiff⟩ := parse_inverse_toText
  refine ⟨hjoined, (hback _ _ hjoined).2, fun h => ?_⟩
  have hwords := (hiff _).1 h
  exact absurd hwords.methodName (by decide)

/-! ### Any number of words -/

lemma parse_of_word (h : words s = [j]) :
    parse s = (ofJoined j).mapError (ParseError.mk s) := by
  rw [parse, h, ofWords]

lemma exists_parse_iff_joins (h : words s = [j]) :
    (∃ f, parse s = .ok f) ↔ ∃ c m d, Joins j c m d := by
  rw [parse_of_word h]
  constructor
  · rintro ⟨f, hf⟩
    rcases hj : ofJoined j with e | g
    · rw [hj] at hf
      cases hf
    · exact ⟨_, _, _, joins_of_ofJoined hj⟩
  · rintro ⟨c, m, d, hjoins⟩
    exact ⟨⟨c, m, d⟩, by rw [hjoins.ofJoined_eq]; rfl⟩

lemma ofWords_eq_error {ws : List Text} (h1 : ws.length ≠ 1) (h3 : ws.length ≠ 3) :
    ofWords ws = .error .wrongParts := by
  unfold ofWords
  split
  · exact absurd rfl h3
  · exact absurd rfl h1
  · rfl

/-- **The two ways to write a frame.** A text of one word is read exactly if the word is a class, a
method and a descriptor, joined. There is but one way to see it so, and it is read as if the three
stood apart. Three words are always read, and any other number of them never. -/
theorem parse_of_spaced :
    (∀ s j, Spaced s [j] →
      ((∃ f, parse s = .ok f) ↔ ∃ c m d, Joins j c m d) ∧
      ∀ c m d, Joins j c m d →
        (∀ c' m' d', Joins j c' m' d' → c' = c ∧ m' = m ∧ d' = d) ∧
        parse s = .ok ⟨c, m, d⟩ ∧ parse (c ++ ' ' :: m ++ ' ' :: d) = .ok ⟨c, m, d⟩) ∧
    (∀ s ws, Spaced s ws → ws.length ≠ 1 → ws.length ≠ 3 → parse s = .error ⟨s, .wrongParts⟩) ∧
    ∀ s c m d, Spaced s [c, m, d] → parse s = .ok ⟨c, m, d⟩ := by
  refine ⟨fun s j h => ⟨exists_parse_iff_joins h.words_eq, fun c m d hjoins => ?_⟩,
    fun s ws h h1 h3 => ?_, fun s c m d h => parse_eq_ok_iff.2 (.apart h.words_eq)⟩
  · refine ⟨fun c' m' d' => hjoins.unique, ?_, ?_⟩
    · rw [parse_of_word h.words_eq, hjoins.ofJoined_eq]
      rfl
    · exact (hjoins.ofWords (h.isWord List.mem_cons_self)).parse_toText
  · rw [parse, h.words_eq, ofWords_eq_error h1 h3]
    rfl

/-- White space of any kind around and between words. -/
theorem parse_of_spaced_joined :
    parse "\u3000 a.b.m(.(V\t".toList = .ok ⟨"a.b".toList, ['m'], "(.(V".toList⟩ ∧
    parse "a.b m (.(V".toList = .ok ⟨"a.b".toList, ['m'], "(.(V".toList⟩ ∧
    parse " a.b\u2003m(V".toList = .error ⟨" a.b\u2003m(V".toList, .wrongParts⟩ ∧
    parse "a . (".toList = .ok ⟨['a'], ['.'], ['(']⟩ := by
  obtain ⟨hone, hother, hthree⟩ := parse_of_spaced
  have hjoins : Joins "a.b.m(.(V".toList "a.b".toList ['m'] "(.(V".toList :=
    ⟨by decide, by decide, by decide, by decide, by decide, by decide, by decide⟩
  have hword : Spaced "\u3000 a.b.m(.(V\t".toList ["a.b.m(.(V".toList] :=
    Text.words_eq_iff.1 (by decide)
  have htwo : Spaced " a.b\u2003m(V".toList ["a.b".toList, "m(V".toList] :=
    Text.words_eq_iff.1 (by decide)
  have hapart : Spaced "a . (".toList [['a'], ['.'], ['(']] := Text.words_eq_iff.1 (by decide)
  obtain ⟨-, hread, hsplit⟩ := (hone _ _ hword).2 _ _ _ hjoins
  exact ⟨hread, hsplit, hother _ _ htwo (by decide) (by decide), hthree _ _ _ _ hapart⟩

end Unmask.Frame
