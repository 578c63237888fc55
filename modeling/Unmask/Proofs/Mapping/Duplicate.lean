import Unmask.Proofs.Mapping.Skipped

/-!
What a duplicate leaves behind. It is skipped with its members, but its packages are derived
before it is known to be a duplicate. So a file without its duplicates maps the same classes and
methods, and the same packages unless a duplicate is the first line to map one of them.
-/

namespace Unmask.Mapping

/-- Line `i` is a class line that maps the package `q` to `x`, if packages are derived. -/
def SaysPackage (packages : Bool) (q : Text) (ls : Lines) (i : Nat) (x : Text) : Prop :=
  packages = true ∧ ∃ o b, ClassAt ls i o b ∧ packagesOf? o b = some (x, q)

/-- The same of class lines that are no duplicates. -/
def SaysPackageAnew (packages : Bool) (q : Text) (ls : Lines) (i : Nat) (x : Text) : Prop :=
  ¬Duplicate ls i ∧ SaysPackage packages q ls i x

/-- A package that a duplicate is the first to map is mapped alike by the first line that maps it
and is no duplicate. -/
def PackagesAgree (packages : Bool) (ls : Lines) : Prop :=
  ∀ q i x, Duplicate ls i → SaysPackage packages q ls i x →
    (∀ j < i, ∀ y, ¬SaysPackage packages q ls j y) →
      ∃ k, SaysPackageAnew packages q ls k x ∧ ∀ j < k, ∀ y, ¬SaysPackageAnew packages q ls j y

lemma settled_saysPackage (packages : Bool) (q : Text) : Settled (SaysPackage packages q) where
  append h := by
    unfold SaysPackage
    simp only [classAt_append h]
  lt := fun ⟨_, _, _, h, _⟩ => h.lt

lemma settled_saysPackageAnew (packages : Bool) (q : Text) :
    Settled (SaysPackageAnew packages q) where
  append h := by
    unfold SaysPackageAnew
    rw [duplicate_append h, (settled_saysPackage packages q).append h]
  lt := fun ⟨_, h⟩ => (settled_saysPackage packages q).lt h

/-! ### Two tables under construction -/

/-- `p` comes of all the lines, `p'` of those that are not skipped. -/
structure Twins (packages : Bool) (ls : Lines) (p p' : Progress) : Prop where
  classes : p'.table.classes = p.table.classes
  methods : p'.table.methods = p.table.methods
  owner : ∀ o, p.owner = some o → p'.owner = some o
  all : ∀ q, Answers p.table.packages[q]? (SaysPackage packages q ls)
  anew : ∀ q, Answers p'.table.packages[q]? (SaysPackageAnew packages q ls)

variable {packages : Bool} {ls : Lines} {p p' : Progress} {x : Except ReadFault Text}
  {o b m d c : Text} {n : Nat}

lemma twins_nil : Twins packages [] {} {} where
  classes := rfl
  methods := rfl
  owner o h := h
  all q := by
    rw [Std.ExtTreeMap.getElem?_empty]
    exact answers_none fun i a ⟨_, _, _, h, _⟩ => absurd h.lt (by simp)
  anew q := by
    rw [Std.ExtTreeMap.getElem?_empty]
    exact answers_none fun i a ⟨_, _, _, _, h, _⟩ => absurd h.lt (by simp)

/-- Only class lines are heard about packages. -/
lemma Twins.pass (h : Twins packages ls p p') (hc : ∀ o b, ¬ClassAt (ls ++ [x]) ls.length o b) :
    Twins packages (ls ++ [x]) p p' where
  classes := h.classes
  methods := h.methods
  owner := h.owner
  all q := (h.all q).pass (settled_saysPackage packages q) fun _ ⟨_, o, b, hc', _⟩ => hc o b hc'
  anew q := (h.anew q).pass (settled_saysPackageAnew packages q)
    fun _ ⟨_, _, o, b, hc', _⟩ => hc o b hc'

/-- A member goes to the same class in both. -/
lemma Twins.member (h : Twins packages ls p p') (hc : ∀ o b, ¬ClassAt (ls ++ [x]) ls.length o b)
    (ho : p.owner = some o) (member : Member) :
    Twins packages (ls ++ [x]) (p.step packages (.member member m)).1
      (p'.step packages (.member member m)).1 := by
  rcases member with d | d
  · rw [Progress.step_method_of_some ho, Progress.step_method_of_some (h.owner o ho)]
    exact {
      classes := h.classes
      methods := by unfold Table.addMethod; rw [h.methods]
      owner := fun o ho => ho
      all := (h.pass hc).all
      anew := (h.pass hc).anew }
  · exact h.pass hc

/-- What a class line adds to the packages. -/
lemma saysPackage_concat_iff (hc : ClassAt (ls ++ [x]) ls.length o b) {q a : Text} :
    (if packages then (packagesOf? o b).bind fun r => if r.2 = q then some r.1 else none
      else none) = some a ↔ SaysPackage packages q (ls ++ [x]) ls.length a := by
  have hiff : SaysPackage packages q (ls ++ [x]) ls.length a ↔
      packages = true ∧ packagesOf? o b = some (a, q) := by
    refine and_congr_right fun _ => ⟨fun ⟨o', b', hc', h⟩ => ?_, fun h => ⟨o, b, hc, h⟩⟩
    obtain ⟨rfl, rfl⟩ := hc.unique hc'
    exact h
  rw [hiff]
  cases packages
  · simp
  · rcases packagesOf? o b with _ | ⟨y, z⟩
    · simp
    · by_cases hz : z = q <;> simp [hz]

lemma Twins.all_classLine (h : Twins packages ls p p')
    (hc : ClassAt (ls ++ [x]) ls.length o b) (q : Text) :
    Answers (packagesAfter packages p.table o b)[q]? (SaysPackage packages q (ls ++ [x])) := by
  rw [getElem?_packagesAfter]
  exact (h.all q).snoc (settled_saysPackage packages q) fun a => saysPackage_concat_iff hc

/-- A duplicate changes the packages of the one table only. -/
lemma Twins.duplicate (h : Twins packages ls p p') (hc : ClassAt (ls ++ [x]) ls.length o b)
    (hd : Duplicate (ls ++ [x]) ls.length) (hb : Name.internal b ∈ p.table.classes) :
    Twins packages (ls ++ [x]) (p.step packages (.classLine n c o b)).1 p' := by
  rw [Progress.step_classLine_of_mem hb]
  exact {
    classes := h.classes
    methods := h.methods
    owner := fun o ho => (by cases ho)
    all := h.all_classLine hc
    anew := fun q => (h.anew q).pass (settled_saysPackageAnew packages q) fun a ha => ha.1 hd }

lemma Twins.classLine {n' : Nat} {c' : Text} (h : Twins packages ls p p')
    (hc : ClassAt (ls ++ [x]) ls.length o b) (hd : ¬Duplicate (ls ++ [x]) ls.length)
    (hb : Name.internal b ∉ p.table.classes) :
    Twins packages (ls ++ [x]) (p.step packages (.classLine n c o b)).1
      (p'.step packages (.classLine n' c' o b)).1 := by
  rw [Progress.step_classLine_of_not_mem hb,
    Progress.step_classLine_of_not_mem (h.classes ▸ hb), h.classes, h.methods]
  exact {
    classes := rfl
    methods := rfl
    owner := fun o ho => ho
    all := h.all_classLine hc
    anew := fun q => by
      rw [getElem?_packagesAfter]
      refine (h.anew q).snoc (settled_saysPackageAnew packages q) fun a => ?_
      rw [saysPackage_concat_iff hc]
      exact ⟨fun ha => ⟨hd, ha⟩, fun ha => ha.2⟩ }

/-! ### Two readings -/

variable {es : List Entry} {above : Option Nat} {drop : Nat → Bool} {text : Text}

/-- The lines that are not dropped can be used too, and make the twin table. -/
def KeptReads (packages : Bool) (drop : Nat → Bool) (ls : Lines) (es : List Entry)
    (above : Option Nat) : Prop :=
  ∃ es' above', Reads (keep drop ls) es' above' ∧ (above' = none ↔ above = none) ∧
    Twins packages ls (Progress.after packages es) (Progress.after packages es')

lemma KeptReads.ignored (h : KeptReads packages drop ls es above)
    (hdrop : drop ls.length = true ↔ SkippedAt (ls ++ [.ok text]) ls.length)
    (hi : (Line.ofText (ls.length + 1) text).isIgnored = true) :
    KeptReads packages drop (ls ++ [.ok text]) es above := by
  obtain ⟨es', above', hr, habove, ht⟩ := h
  have hsnoc := Reads.snoc hr (.ignored hi)
  rw [Option.toList_none, List.append_nil] at hsnoc
  refine ⟨es', above', ?_, habove, ht.pass fun o b => not_classAt_concat_of_ignored hi⟩
  rw [keep_concat, if_neg fun h => not_skippedAt_concat_of_ignored hi (hdrop.1 h)]
  exact hsnoc

lemma KeptReads.orphan (h : KeptReads packages drop ls es above) (before : Reads ls es above)
    (hdrop : drop ls.length = true ↔ SkippedAt (ls ++ [.ok text]) ls.length)
    (hi : (Line.ofText (ls.length + 1) text).isIgnored = false)
    (hd : (Line.ofText (ls.length + 1) text).indented = true) (htop : above = none) :
    KeptReads packages drop (ls ++ [.ok text])
      (es ++ [.orphan (ls.length + 1) (Text.trim text)]) above := by
  obtain ⟨es', above', hr, habove, ht⟩ := h
  have hs : ¬drop ls.length = true := fun h => by
    obtain ⟨k, ⟨⟨o, b, hk⟩, -⟩, -⟩ := (skippedAt_concat_of_indented hi hd).1 (hdrop.1 h)
    exact before.lastClass.1 htop k o b hk
  rw [KeptReads, keep_concat, if_neg hs, Progress.after_snoc, Progress.step_orphan]
  refine ⟨_, above', .snoc hr (.orphan hi hd (habove.2 htop)), habove, ?_⟩
  rw [Option.toList_some, Progress.after_snoc, Progress.step_orphan]
  exact ht.pass fun o b => not_classAt_concat_of_indented hi hd

lemma KeptReads.member (h : KeptReads packages drop ls es above) (before : Reads ls es above)
    (hdrop : drop ls.length = true ↔ SkippedAt (ls ++ [.ok text]) ls.length)
    (hi : (Line.ofText (ls.length + 1) text).isIgnored = false)
    (hd : (Line.ofText (ls.length + 1) text).indented = true) (hb : above = some n)
    (hs : (Line.ofText (ls.length + 1) text).SaysMember d m) :
    KeptReads packages drop (ls ++ [.ok text]) (es ++ [.member (Member.ofText d) m]) above := by
  obtain ⟨es', above', hr, habove, ht⟩ := h
  have hc (o b) := not_classAt_concat_of_indented (o := o) (b := b) hi hd
  have hskip := skippedAt_concat_of_indented hi hd
  have hmeans := before.means packages
  obtain ⟨k, -, hk⟩ := before.lastClass.2 n hb
  rw [KeptReads, keep_concat, Progress.after_snoc]
  by_cases hdup : Duplicate ls k
  · rw [if_pos (hdrop.2 (hskip.2 ⟨k, hk, hdup⟩)), List.append_nil,
      Progress.step_member_of_none (hmeans.owner_eq_none hk hdup)]
    exact ⟨es', above', hr, habove, ht.pass hc⟩
  · have hkeep : ¬drop ls.length = true := fun h => by
      obtain ⟨i, hi', hdi⟩ := hskip.1 (hdrop.1 h)
      exact hdup (hi'.unique hk ▸ hdi)
    obtain ⟨n', hn'⟩ : ∃ n', above' = some n' := by
      rw [← Option.ne_none_iff_exists', ne_eq, habove, hb]
      simp
    have ⟨⟨o, b, hkc⟩, _⟩ := hk
    have ho := (hmeans.owner o).2 ⟨k, b, hkc, hdup, hk⟩
    rw [if_neg hkeep]
    refine ⟨_, above', .snoc hr (.member hi hd hn' hs), habove, ?_⟩
    rw [Option.toList_some, Progress.after_snoc]
    exact ht.member hc ho _

lemma KeptReads.classLine (h : KeptReads packages drop ls es above) (before : Reads ls es above)
    (hdrop : drop ls.length = true ↔ SkippedAt (ls ++ [.ok text]) ls.length)
    (hi : (Line.ofText (ls.length + 1) text).isIgnored = false)
    (hd : (Line.ofText (ls.length + 1) text).indented = false)
    (hs : (Line.ofText (ls.length + 1) text).SaysClass o b) :
    KeptReads packages drop (ls ++ [.ok text])
      (es ++ [.classLine (ls.length + 1) (Text.trim text) o b]) (some (ls.length + 1)) := by
  obtain ⟨es', above', hr, habove, ht⟩ := h
  have hc : ClassAt (ls ++ [.ok text]) ls.length o b := ⟨_, lineAt?_concat hi, hd, hs⟩
  have hmem := (before.means packages).duplicate_concat_iff hc
  rw [skippedAt_concat_of_classAt hc] at hdrop
  rw [KeptReads, keep_concat, Progress.after_snoc]
  by_cases hdup : Duplicate (ls ++ [.ok text]) ls.length
  · rw [if_pos (hdrop.2 hdup), List.append_nil]
    refine ⟨es', above', hr, ?_, ht.duplicate hc hdup (hmem.1 hdup)⟩
    -- a duplicate has a class line above
    obtain ⟨o', b', -, k, hk, o₁, b₁, hkc, -⟩ := hdup
    refine habove.trans ⟨fun htop => ?_, fun htop => by cases htop⟩
    exact absurd ((classAt_append hk).1 hkc) (before.lastClass.1 htop k o₁ b₁)
  · rw [if_neg fun h => hdup (hdrop.1 h)]
    refine ⟨_, _, .snoc hr (.classLine hi hd hs), by simp [Entry.above], ?_⟩
    rw [Option.toList_some, Progress.after_snoc]
    exact ht.classLine hc hdup fun h => hdup (hmem.2 h)

theorem Reads.keep (h : Reads ls es above) (packages : Bool)
    (hdrop : ∀ i < ls.length, drop i = true ↔ SkippedAt ls i) :
    KeptReads packages drop ls es above := by
  induction h with
  | nil => exact ⟨[], none, .nil, Iff.rfl, twins_nil⟩
  | @snoc ls es above x entry before here ih =>
    have hlast := hdrop ls.length (by simp)
    have hkept := ih fun i hi => by
      rw [hdrop i (by rw [List.length_append]; omega), skippedAt_append hi]
    cases here with
    | ignored hi =>
      rw [Option.toList_none, List.append_nil]
      exact hkept.ignored hlast hi
    | orphan hi hd htop => exact hkept.orphan before hlast hi hd htop
    | member hi hd hb hs => exact hkept.member before hlast hi hd hb hs
    | classLine hi hd hs => exact hkept.classLine before hlast hi hd hs

/-! ### Two files -/

variable {bytes : List UInt8}

lemma not_skippedAt_zero : ¬SkippedAt ls 0 := by
  rintro (⟨_, _, _, k, hk, _⟩ | ⟨-, k, ⟨-, hk, -⟩, -⟩)
  · omega
  · omega

lemma reads_withoutDuplicates (h : Reads (fileLines bytes) es above) (packages : Bool) :
    ∃ es' above', Reads (fileLines (withoutDuplicates packages bytes)) es' above' ∧
      Twins packages (fileLines bytes) (Progress.after packages es)
        (Progress.after packages es') := by
  have hdrop (i) : isSkipped (fileLines bytes)
      (duplicateNumbers (reports (read packages (.bytes bytes)).1)) i = true ↔
        SkippedAt (fileLines bytes) i := by
    refine isSkipped_iff fun i => mem_duplicateNumbers ?_
    rw [h.reports_read packages]
    exact h.reported packages
  obtain ⟨es', above', hr, -, ht⟩ := h.keep packages fun i _ => hdrop i
  refine ⟨es', above', ?_, ht⟩
  have hfirst : isSkipped (fileLines bytes)
      (duplicateNumbers (reports (read packages (.bytes bytes)).1)) 0 = false := by
    rw [← Bool.not_eq_true, hdrop]
    exact not_skippedAt_zero
  rw [withoutDuplicates, fileLines_eq_keep hfirst (Text.lines_removeLines _ bytes)]
  exact hr

/-- **Files without their duplicates.** They map the same classes and methods, and they make the
same table just if the packages agree. -/
theorem read_withoutDuplicates {t : Table} (h : (read packages (.bytes bytes)).2 = .ok t) :
    ∃ t', (read packages (.bytes (withoutDuplicates packages bytes))).2 = .ok t' ∧
      t'.classes = t.classes ∧ t'.methods = t.methods ∧
      (t' = t ↔ PackagesAgree packages (fileLines bytes)) := by
  obtain ⟨es, above, hr, rfl⟩ := read_eq_ok_iff.1 h
  obtain ⟨es', above', hr', ht⟩ := reads_withoutDuplicates hr packages
  refine ⟨_, read_eq_ok_iff.2 ⟨es', above', hr', rfl⟩, ht.classes, ht.methods, ?_⟩
  have hpackages : (Progress.after packages es').table.packages =
      (Progress.after packages es).table.packages ↔ PackagesAgree packages (fileLines bytes) := by
    refine Iff.trans ?_ (forall_congr' fun q => (ht.all q).eq_iff (ht.anew q))
    exact ⟨fun he q => by rw [he], fun he => Std.ExtTreeMap.ext_getElem? fun {q} => he q⟩
  rw [← hpackages]
  refine ⟨fun he => by rw [he], fun he => ?_⟩
  have hc := ht.classes
  have hm := ht.methods
  rcases hp : (Progress.after packages es).table with ⟨cs, ps, ms⟩
  rcases hp' : (Progress.after packages es').table with ⟨cs', ps', ms'⟩
  rw [hp, hp'] at hc hm he
  simp only at hc hm he
  rw [hc, hm, he]

/-- The second line is a duplicate, and the only one that maps a package. -/
def strayPackageFile : List UInt8 := Text.Utf8.encode "S -> a.b:\np.M -> a.b:\n".toList

theorem read_strayPackageFile_withoutDuplicates : ∃ t t',
    withoutDuplicates true strayPackageFile = Text.Utf8.encode "S -> a.b:\n".toList ∧
    (read true (.bytes strayPackageFile)).2 = .ok t ∧
    (read true (.bytes (withoutDuplicates true strayPackageFile))).2 = .ok t' ∧
    t'.classes = t.classes ∧ t'.methods = t.methods ∧ t' ≠ t ∧
    ¬PackagesAgree true (fileLines strayPackageFile) := by
  have h : (read true (.bytes strayPackageFile)).2 =
      .ok ((read true (.bytes strayPackageFile)).2.toOption.getD {}) := by decide
  obtain ⟨t', ht', hc, hm, hiff⟩ := read_withoutDuplicates h
  have hne : t' ≠ (read true (.bytes strayPackageFile)).2.toOption.getD {} := by
    rintro rfl
    exact absurd ht' (by decide)
  exact ⟨_, t', by decide, h, ht', hc, hm, hne, fun ha => hne (hiff.2 ha)⟩

/-- A duplicate can leave a package behind. -/
theorem not_read_withoutDuplicates_eq : ¬∀ packages bytes t,
    (read packages (.bytes bytes)).2 = .ok t →
      (read packages (.bytes (withoutDuplicates packages bytes))).2 = .ok t := by
  intro hall
  have h := hall true strayPackageFile
    ((read true (.bytes strayPackageFile)).2.toOption.getD {}) (by decide)
  exact absurd h (by decide)

end Unmask.Mapping
