import Unmask.Proofs.Mapping.Account
import Unmask.Proofs.Mapping.Block
import Unmask.Proofs.Mapping.Presentation

/-!
Mapping files made of blocks, each with its own line feeds. A block is read as if it were a file of
its own, whatever stands above it, so the blocks of a file can be put in another order.
-/

namespace Unmask.Mapping

open Name

/-- Full lines: a class line, and below it lines that are none. None starts with a byte order
mark. -/
structure IsBlock (block : List UInt8) : Prop where
  ended : block.getLast? = some 0x0a
  unmarked : ∀ line ∈ Text.lines block, ¬Text.mark <+: line
  head : ∃ o b, ClassAt (fileLines block) 0 o b
  only : ∀ i o b, ClassAt (fileLines block) i o b → i = 0

/-- The class lines of the blocks have neither real nor obfuscated names in common. If packages are
derived, those with obfuscated names in one package have real names in one package, as far as these
have packages. -/
structure Rearrangeable (packages : Bool) (blocks : List (List UInt8)) : Prop where
  block : ∀ x ∈ blocks, IsBlock x
  names : blocks.Pairwise fun x y => ∀ o b o' b',
    ClassAt (fileLines x) 0 o b → ClassAt (fileLines y) 0 o' b' →
      internal o ≠ internal o' ∧ internal b ≠ internal b'
  derived : packages = true → ∀ x ∈ blocks, ∀ y ∈ blocks, ∀ q p p',
    PackageAt q (fileLines x) 0 p → PackageAt q (fileLines y) 0 p' → p = p'

/-- What is read of a block as a file of its own. -/
def classBlock? (block : List UInt8) : Option ClassBlock :=
  ClassBlock.ofEntries? (entries (.bytes block)).1

variable {ls more : Lines} {x : List UInt8} {blocks : List (List UInt8)} {i n : Nat}
  {above : Option Nat} {o b : Text} {packages : Bool}

/-! ### The lines of blocks -/

lemma isBlock_of_classLines (hended : x.getLast? = some 0x0a)
    (hunmarked : ∀ line ∈ Text.lines x, ¬Text.mark <+: line)
    (h : classLines (fileLines x) = [0]) : IsBlock x where
  ended := hended
  unmarked := hunmarked
  head := isClassLine_iff.1 (List.mem_filter.1 (h ▸ List.mem_singleton_self 0)).2
  only i o b hc := by
    have hmem : i ∈ classLines (fileLines x) :=
      List.mem_filter.2 ⟨List.mem_range.2 hc.lt, isClassLine_iff.2 ⟨o, b, hc⟩⟩
    rw [h] at hmem
    exact List.mem_singleton.1 hmem

lemma fileLines_of_unmarked {bytes : List UInt8}
    (h : ∀ line ∈ Text.lines bytes, ¬Text.mark <+: line) :
    fileLines bytes = (Text.lines bytes).map Source.readLine := by
  rw [fileLines_eq]
  rcases hl : Text.lines bytes with _ | ⟨line, rest⟩
  · rfl
  · have hline := h line (by rw [hl]; exact List.mem_cons_self)
    rw [List.map_cons, Source.readLine]
    rcases hd : Text.Utf8.decode line with _ | text
    · rfl
    · have hdrop : text.dropWhile (· = '\ufeff') = text := by
        rcases text with _ | ⟨c, r⟩
        · rfl
        · refine List.dropWhile_cons_of_neg fun hc => hline ?_
          rw [← Text.Utf8.decode_eq_some_iff.1 hd, of_decide_eq_true hc]
          exact ⟨Text.Utf8.encode r, rfl⟩
      rw [dropMarks, hdrop]

lemma fileLines_flatten (h : ∀ x ∈ blocks, IsBlock x) :
    fileLines blocks.flatten = blocks.flatMap fileLines := by
  have hlines := Text.lines_flatten fun x hx => (h x hx).ended
  have hunmarked : ∀ line ∈ Text.lines blocks.flatten, ¬Text.mark <+: line := by
    intro line hline
    rw [hlines] at hline
    obtain ⟨x, hx, hmem⟩ := List.mem_flatMap.1 hline
    exact (h x hx).unmarked line hmem
  rw [fileLines_of_unmarked hunmarked, hlines, List.map_flatMap]
  refine List.flatMap_congr fun x hx => ?_
  exact (fileLines_of_unmarked (h x hx).unmarked).symm

/-- A class line is one under any number and below any other. -/
lemma entryAt_classLine {y : Except ReadFault Text} {c : Text}
    (h : entryAt n above y = .ok (some (.classLine n c o b))) (n' : Nat) (above' : Option Nat) :
    entryAt n' above' y = .ok (some (.classLine n' c o b)) := by
  have hpart := part_entryAt n above y
  rw [h] at hpart
  cases hpart with
  | @classLine text _ _ hi hd hs =>
    have hother : Part n' above' (.ok text) (.ok (some (.classLine n' (Text.trim text) o b))) :=
      .classLine hi hd hs
    exact hother.entryAt_eq

lemma classAt_iff_entryAt (n : Nat) (above : Option Nat) : ClassAt ls i o b ↔
    ∃ y c, ls[i]? = some y ∧ entryAt n above y = .ok (some (.classLine n c o b)) := by
  constructor
  · rintro ⟨l, hl, hd, hs⟩
    unfold lineAt? at hl
    split at hl
    · next text ht =>
      split at hl
      · cases hl
      · next hi =>
        cases hl
        rw [Bool.not_eq_true] at hi
        have hpart : Part n above (.ok text) (.ok (some (.classLine n (Text.trim text) o b))) :=
          .classLine hi hd hs
        exact ⟨_, _, ht, hpart.entryAt_eq⟩
    · cases hl
  · rintro ⟨y, c, hy, he⟩
    have hpart := part_entryAt n above y
    rw [he] at hpart
    cases hpart with
    | @classLine text _ _ hi hd hs =>
      have hi' : ¬(Line.ofText (i + 1) text).isIgnored = true := by
        rw [Bool.not_eq_true]
        exact hi
      exact ⟨Line.ofText (i + 1) text, by rw [lineAt?, hy]; exact if_neg hi', hd, hs⟩

/-! ### The entries of blocks -/

/-- Below lines without a fault the reading goes on. -/
lemma exists_entriesFrom_append (h : (entriesFrom n above ls).2 = none) (more : Lines) :
    ∃ below, entriesFrom n above (ls ++ more) =
      ((entriesFrom n above ls).1 ++ (entriesFrom (n + ls.length) below more).1,
        (entriesFrom (n + ls.length) below more).2) := by
  induction ls generalizing n above with
  | nil => exact ⟨above, rfl⟩
  | cons y ls ih =>
    rw [entriesFrom_cons] at h
    rw [List.cons_append, entriesFrom_cons, entriesFrom_cons]
    rcases he : entryAt n above y with e | entry
    · rw [he] at h
      cases h
    · rw [he] at h
      obtain ⟨below, hbelow⟩ := ih h
      have hlength : n + (y :: ls).length = n + 1 + ls.length := by
        rw [List.length_cons]
        omega
      refine ⟨below, ?_⟩
      rw [hlength]
      simp only [hbelow, List.append_assoc]

/-- A fault ends the reading. -/
lemma entriesFrom_append_of_fault {e : LoadError} (h : (entriesFrom n above ls).2 = some e)
    (more : Lines) : (entriesFrom n above (ls ++ more)).2 = some e := by
  induction ls generalizing n above with
  | nil => cases h
  | cons y ls ih =>
    rw [entriesFrom_cons] at h
    rw [List.cons_append, entriesFrom_cons]
    rcases he : entryAt n above y with e' | entry
    · rw [he] at h
      exact h
    · rw [he] at h
      exact ih h

/-- Lines further down are read under greater numbers. -/
lemma entriesFrom_add (d n : Nat) (above : Option Nat) (ls : Lines) :
    entriesFrom (n + d) (above.map (· + d)) ls =
      ((entriesFrom n above ls).1.map (Entry.renumber (· + d)),
        (entriesFrom n above ls).2.map (LoadError.renumber (· + d))) := by
  have hshift : Shifts (fun _ => false) (· + d) (n + d) n := by
    intro i _
    simp only [Nat.count_true]
    omega
  have hkeep : keep (fun _ => false) ls = ls := by simp [keep]
  have h : entriesFrom (n + d) (above.map (· + d)) ls = _ :=
    entriesFrom_keep (n + d) n above hshift fun _ _ _ hd => absurd hd Bool.false_ne_true
  rwa [hkeep] at h

/-- Below a class line there are members up to the next one. -/
lemma all_isMember_entriesFrom (k : Nat)
    (h : ∀ y ∈ ls, ∀ n above c o b, entryAt n above y ≠ .ok (some (.classLine n c o b))) :
    (entriesFrom n (some k) ls).1.all Entry.isMember = true := by
  induction ls generalizing n with
  | nil => rfl
  | cons y ls ih =>
    have hrest := ih (n := n + 1) fun z hz => h z (List.mem_cons_of_mem y hz)
    have hpart := part_entryAt n (some k) y
    rw [entriesFrom_cons]
    rcases he : entryAt n (some k) y with e | _ | ⟨n', c⟩ | ⟨n', c, o, b⟩ | ⟨m, b⟩
    · rfl
    · exact hrest
    · rw [he] at hpart
      cases hpart with
      | orphan _ _ htop => cases htop
    · rw [he] at hpart
      cases hpart with
      | classLine _ _ _ => exact absurd he (h _ List.mem_cons_self n _ _ o b)
    · exact hrest

lemma IsBlock.exists_cons (hx : IsBlock x) : ∃ y ls c o b, fileLines x = y :: ls ∧
    (∀ n above, entryAt n above y = .ok (some (.classLine n c o b))) ∧
    ∀ z ∈ ls, ∀ n above c o b, entryAt n above z ≠ .ok (some (.classLine n c o b)) := by
  obtain ⟨o, b, hc⟩ := hx.head
  obtain ⟨y, c, hy, he⟩ := (classAt_iff_entryAt 1 none).1 hc
  rcases hls : fileLines x with _ | ⟨y', ls⟩
  · rw [hls] at hy
    cases hy
  · rw [hls] at hy
    obtain rfl : y' = y := Option.some.inj hy
    refine ⟨y', ls, c, o, b, rfl, entryAt_classLine he, fun z hz n above c' o' b' h => ?_⟩
    obtain ⟨i, hi⟩ := List.mem_iff_getElem?.1 hz
    have hat : ClassAt (fileLines x) (i + 1) o' b' :=
      (classAt_iff_entryAt n above).2 ⟨z, c', by rw [hls]; exact hi, h⟩
    exact absurd (hx.only _ _ _ hat) (Nat.succ_ne_zero i)

/-- A block is read alike wherever it stands. -/
lemma IsBlock.entriesFrom_eq (hx : IsBlock x) (d : Nat) (above : Option Nat) :
    entriesFrom (d + 1) above (fileLines x) =
      ((entries (.bytes x)).1.map (Entry.renumber (· + d)),
        (entries (.bytes x)).2.map (LoadError.renumber (· + d))) := by
  obtain ⟨y, ls, c, o, b, hls, hy, -⟩ := hx.exists_cons
  rw [entries_bytes, ← entriesFrom_add d 1 none, hls, entriesFrom_cons, entriesFrom_cons, hy,
    Nat.add_comm 1 d, hy]
  rfl

lemma IsBlock.exists_classBlock (hx : IsBlock x) :
    ∃ k, classBlock? x = some k ∧ ClassAt (fileLines x) 0 k.real k.obfuscated := by
  obtain ⟨y, ls, c, o, b, hls, hy, hothers⟩ := hx.exists_cons
  have hmembers := all_isMember_entriesFrom (n := 2) 1 hothers
  refine ⟨⟨o, b, (entriesFrom 2 (some 1) ls).1.filterMap Entry.method?⟩, ?_, ?_⟩
  · rw [classBlock?, entries_bytes, hls, entriesFrom_cons, hy]
    exact if_pos hmembers
  · exact (classAt_iff_entryAt 1 none).2 ⟨y, c, by rw [hls]; rfl, hy 1 none⟩

lemma ofEntries?_renumber (f : Nat → Nat) (es : List Entry) :
    ClassBlock.ofEntries? (es.map (Entry.renumber f)) = ClassBlock.ofEntries? es := by
  have hmember : Entry.isMember ∘ Entry.renumber f = Entry.isMember := by
    funext e
    cases e <;> rfl
  have hmethod : Entry.method? ∘ Entry.renumber f = Entry.method? := by
    funext e
    rcases e with ⟨n, c⟩ | ⟨n, c, o, b⟩ | ⟨d | d, m⟩ <;> rfl
  rcases es with _ | ⟨⟨n, c⟩ | ⟨n, c, o, b⟩ | ⟨m, b⟩, es⟩
  · rfl
  · rfl
  · rw [List.map_cons, Entry.renumber, ClassBlock.ofEntries?, ClassBlock.ofEntries?, List.all_map,
      List.filterMap_map, hmember, hmethod]
  · rfl

/-! ### Files of blocks -/

/-- If there is no fault in a file, there is none in its blocks. -/
lemma entries_of_blocks (d : Nat) (above : Option Nat) (hb : ∀ x ∈ blocks, IsBlock x)
    (h : (entriesFrom (d + 1) above (blocks.flatMap fileLines)).2 = none) :
    ∀ x ∈ blocks, (entries (.bytes x)).2 = none := by
  induction blocks generalizing d above with
  | nil => exact fun x hx => absurd hx List.not_mem_nil
  | cons x blocks ih =>
    obtain ⟨hx, hb⟩ := List.forall_mem_cons.1 hb
    have hxe := hx.entriesFrom_eq d above
    rw [List.flatMap_cons] at h
    rcases he : (entries (.bytes x)).2 with _ | e
    · have hnone : (entriesFrom (d + 1) above (fileLines x)).2 = none := by rw [hxe, he]; rfl
      obtain ⟨below, hbelow⟩ := exists_entriesFrom_append hnone (blocks.flatMap fileLines)
      rw [hbelow, Nat.add_right_comm] at h
      exact List.forall_mem_cons.2 ⟨he, ih _ below hb h⟩
    · have hsome : (entriesFrom (d + 1) above (fileLines x)).2 =
          some (e.renumber (· + d)) := by rw [hxe, he]; rfl
      rw [entriesFrom_append_of_fault hsome] at h
      cases h

/-- Blocks without a fault make up a file without one, and if no two of them have an obfuscated
name in common, the table is told by them, and nothing is reported. -/
theorem toldBy_blocks (d : Nat) (above : Option Nat) {p : Progress} {ks : List ClassBlock}
    (hb : ∀ x ∈ blocks, IsBlock x) (hok : ∀ x ∈ blocks, (entries (.bytes x)).2 = none)
    (hp : ToldBy packages ks p.table)
    (hnew : ((ks ++ blocks.filterMap classBlock?).map fun k => internal k.obfuscated).Nodup) :
    ∃ es, entriesFrom (d + 1) above (blocks.flatMap fileLines) = (es, none) ∧
      ToldBy packages (ks ++ blocks.filterMap classBlock?) (Progress.run packages p es).1.table ∧
      reports (Progress.run packages p es).2 = [] := by
  induction blocks generalizing d above p ks with
  | nil =>
    refine ⟨[], rfl, ?_, rfl⟩
    rw [List.filterMap_nil, List.append_nil]
    exact hp
  | cons x blocks ih =>
    obtain ⟨hx, hb⟩ := List.forall_mem_cons.1 hb
    obtain ⟨hxok, hok⟩ := List.forall_mem_cons.1 hok
    obtain ⟨k, hk, -⟩ := hx.exists_classBlock
    have hxe := hx.entriesFrom_eq d above
    rw [hxok, Option.map_none] at hxe
    -- the block itself
    have hsplit : ks ++ (x :: blocks).filterMap classBlock? =
        (ks ++ [k]) ++ blocks.filterMap classBlock? := by
      rw [List.filterMap_cons_some hk, List.append_assoc, List.singleton_append]
    rw [hsplit] at hnew ⊢
    have hfree : ∀ k' ∈ ks, internal k'.obfuscated ≠ internal k.obfuscated := by
      intro k' hk'
      rw [List.map_append, List.map_append, List.nodup_append] at hnew
      have hdisjoint := (List.nodup_append.1 hnew.1).2.2
      exact hdisjoint _ (List.mem_map_of_mem hk') _ (by simp)
    have hof : ClassBlock.ofEntries? ((entries (.bytes x)).1.map (Entry.renumber (· + d))) =
        some k := (ofEntries?_renumber _ _).trans hk
    obtain ⟨htold, hquiet⟩ := hp.block hof hfree
    -- the blocks below
    obtain ⟨below, hbelow⟩ := exists_entriesFrom_append (congrArg Prod.snd hxe)
      (blocks.flatMap fileLines)
    obtain ⟨es, hes, htable, hreports⟩ :=
      ih (d + (fileLines x).length) below hb hok htold hnew
    rw [Nat.add_right_comm] at hes
    refine ⟨_, by rw [List.flatMap_cons, hbelow, hes], ?_, ?_⟩
    · rw [hxe, Progress.run_append]
      exact htable
    · rw [hxe, Progress.run_append, reports_append, hquiet, hreports]
      rfl

lemma classAt_of_classBlock? {k : ClassBlock} (hx : IsBlock x) (hk : classBlock? x = some k) :
    ClassAt (fileLines x) 0 k.real k.obfuscated := by
  obtain ⟨k', hk', hc⟩ := hx.exists_classBlock
  obtain rfl := Option.some.inj (hk.symm.trans hk')
  exact hc

lemma Rearrangeable.independent (hr : Rearrangeable packages blocks) :
    Independent packages (blocks.filterMap classBlock?) where
  real := by
    unfold List.Nodup
    rw [List.pairwise_map, List.pairwise_filterMap]
    refine hr.names.imp_of_mem fun hx hy h k hk k' hk' => ?_
    exact (h _ _ _ _ (classAt_of_classBlock? (hr.block _ hx) hk)
      (classAt_of_classBlock? (hr.block _ hy) hk')).1
  obfuscated := by
    unfold List.Nodup
    rw [List.pairwise_map, List.pairwise_filterMap]
    refine hr.names.imp_of_mem fun hx hy h k hk k' hk' => ?_
    exact (h _ _ _ _ (classAt_of_classBlock? (hr.block _ hx) hk)
      (classAt_of_classBlock? (hr.block _ hy) hk')).2
  derived k hk k' hk' q p p' hp hp' := by
    have packageAt {x k p} (hx : x ∈ blocks) (hk : classBlock? x = some k)
        (h : packagesOf? k.real k.obfuscated = some (p, q)) : PackageAt q (fileLines x) 0 p := by
      obtain ⟨ho, hb⟩ := packagesOf?_eq_some_iff.1 h
      exact ⟨_, _, classAt_of_classBlock? (hr.block x hx) hk, package?_eq_some_iff.1 ho,
        package?_eq_some_iff.1 hb⟩
    obtain ⟨x, hx, hxk⟩ := List.mem_filterMap.1 hk
    obtain ⟨y, hy, hyk⟩ := List.mem_filterMap.1 hk'
    obtain ⟨hpackages, h⟩ := ClassBlock.package?_eq_some_iff.1 hp
    obtain ⟨-, h'⟩ := ClassBlock.package?_eq_some_iff.1 hp'
    exact hr.derived hpackages x hx y hy q p p' (packageAt hx hxk h) (packageAt hy hyk h')

/-- A file of blocks without a fault gives the table that is told by them. -/
lemma read_blocks (packages : Bool) (hb : ∀ x ∈ blocks, IsBlock x)
    (hok : ∀ x ∈ blocks, (entries (.bytes x)).2 = none)
    (hnew : ((blocks.filterMap classBlock?).map fun k => internal k.obfuscated).Nodup) :
    ∃ t, (read packages (.bytes blocks.flatten)).2 = .ok t ∧
      ToldBy packages (blocks.filterMap classBlock?) t ∧
      reports (read packages (.bytes blocks.flatten)).1 = [] := by
  obtain ⟨es, hes, htold, hreports⟩ :=
    toldBy_blocks 0 none (p := {}) hb hok (toldBy_new packages) hnew
  have hentries : entries (.bytes blocks.flatten) = (es, none) := by
    rw [entries_bytes, fileLines_flatten hb]
    exact hes
  have hread := read_snd packages (.bytes blocks.flatten)
  rw [hentries] at hread
  refine ⟨_, hread, htold, ?_⟩
  rw [reports_read, hentries]
  exact hreports

/-- **The order of blocks does not matter.** Where a file of blocks gives a table, and no two of
their class lines share a name, nor disagree on a package if packages are derived, the blocks give
the same table in every order, and nothing is reported. -/
theorem read_perm {blocks' : List (List UInt8)} {t : Table} (hr : Rearrangeable packages blocks)
    (hp : blocks.Perm blocks') (ht : (read packages (.bytes blocks.flatten)).2 = .ok t) :
    (read packages (.bytes blocks'.flatten)).2 = .ok t ∧
      reports (read packages (.bytes blocks'.flatten)).1 = [] := by
  have hi := hr.independent
  have hks : (blocks.filterMap classBlock?).Perm (blocks'.filterMap classBlock?) :=
    hp.filterMap classBlock?
  have hb' : ∀ x ∈ blocks', IsBlock x := fun x hx => hr.block x (hp.mem_iff.2 hx)
  -- the blocks have no fault, so they have none in the other order
  have hok : ∀ x ∈ blocks, (entries (.bytes x)).2 = none := by
    refine entries_of_blocks 0 none hr.block ?_
    rw [← fileLines_flatten hr.block, Nat.zero_add, ← entries_bytes]
    rw [read_snd] at ht
    rcases he : (entries (.bytes blocks.flatten)).2 with _ | e
    · rfl
    · rw [he] at ht
      cases ht
  have hok' : ∀ x ∈ blocks', (entries (.bytes x)).2 = none := fun x hx => hok x (hp.mem_iff.2 hx)
  have hnew' := (hks.map fun k => internal k.obfuscated).nodup_iff.1 hi.obfuscated
  obtain ⟨u, hu, htold, -⟩ := read_blocks packages hr.block hok hi.obfuscated
  obtain ⟨u', hu', htold', hreports'⟩ := read_blocks packages hb' hok' hnew'
  obtain rfl : u = t := Except.ok.inj (hu.symm.trans ht)
  have heq := htold.table_eq htold' (Table.wellFormed_of_read hu) (Table.wellFormed_of_read hu')
    hi hks
  exact ⟨heq ▸ hu', hreports'⟩

/-- A class with two methods of one obfuscated name. -/
def shapeBlock : List UInt8 := Text.Utf8.encode
  "p.Shape -> a.b:\n  p.Task f() -> x\n  1:2:void g() -> x\n".toList

/-- Another class of the package, with a comment. -/
def taskBlock : List UInt8 := Text.Utf8.encode
  "p.Task -> a.c:\n# note\n  int g(p.Shape) -> y\n".toList

lemma rearrangeable_shapeBlock_taskBlock : Rearrangeable true [shapeBlock, taskBlock] := by
  have hshape : ClassAt (fileLines shapeBlock) 0 "p.Shape".toList "a.b".toList :=
    (classAt_iff_entryAt 1 none).2 ⟨_, _, rfl, rfl⟩
  have htask : ClassAt (fileLines taskBlock) 0 "p.Task".toList "a.c".toList :=
    (classAt_iff_entryAt 1 none).2 ⟨_, _, rfl, rfl⟩
  -- each of the two names on both lines is in the one package
  have hpackage {x q p} (hx : x ∈ [shapeBlock, taskBlock]) (h : PackageAt q (fileLines x) 0 p) :
      p = ['p'] := by
    obtain ⟨o, b, hc, ho, -⟩ := h
    rw [← package?_eq_some_iff] at ho
    rcases List.mem_pair.1 hx with rfl | rfl
    · obtain ⟨rfl, rfl⟩ := hc.unique hshape
      exact (Option.some.inj ho).symm
    · obtain ⟨rfl, rfl⟩ := hc.unique htask
      exact (Option.some.inj ho).symm
  constructor
  case block =>
    intro x hx
    rcases List.mem_pair.1 hx with rfl | rfl
    · exact isBlock_of_classLines (by decide) (by decide) (by decide)
    · exact isBlock_of_classLines (by decide) (by decide) (by decide)
  case names =>
    refine List.pairwise_pair.2 fun o b o' b' hc hc' => ?_
    obtain ⟨rfl, rfl⟩ := hc.unique hshape
    obtain ⟨rfl, rfl⟩ := hc'.unique htask
    decide
  case derived =>
    intro _ x hx y hy q p p' hp hp'
    rw [hpackage hx hp, hpackage hy hp']

theorem read_perm_taskBlock : ∃ t, (read true (.bytes [shapeBlock, taskBlock].flatten)).2 = .ok t ∧
    (read true (.bytes [taskBlock, shapeBlock].flatten)).2 = .ok t ∧
    reports (read true (.bytes [taskBlock, shapeBlock].flatten)).1 = [] ∧
    t.realPackage? ['a'] = some ['p'] := by
  have h : (read true (.bytes [shapeBlock, taskBlock].flatten)).2 =
      .ok ((read true (.bytes [shapeBlock, taskBlock].flatten)).2.toOption.getD {}) := by decide
  obtain ⟨hswapped, hquiet⟩ := read_perm rearrangeable_shapeBlock_taskBlock (List.Perm.swap _ _ _) h
  exact ⟨_, h, hswapped, hquiet, by decide⟩

end Unmask.Mapping
