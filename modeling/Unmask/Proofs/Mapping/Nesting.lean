import Mathlib.Tactic.Lemma
import Unmask.Mapping.Nesting

/-!
Nested loops over a mapping file against its entries taken in one by one. The inner loop takes the
members that belong to one class line, and where it stops nothing is left that the class line would
matter to. So both come to the same table or the same error, and the same happens on the way.
-/

namespace Unmask.Mapping

variable {packages : Bool} {above : Option Nat} {owner : Option Text} {l : Line}
  {items : List (Except UnreadLine Line)} {s : Draft}

/-! ### One loop -/

namespace NestedLines

variable {σ : Type} {f : Visit σ} {it it' : NestedLines} {s : σ} {l : Line}

lemma onEveryLine_of_none (h : it.next? = none) : it.onEveryLine f s = ⟨s, .ok (), it.rest⟩ := by
  rw [onEveryLine]
  split
  · rfl
  · next h' => cases h.symm.trans h'
  · next h' => cases h.symm.trans h'

lemma onEveryLine_of_error {u : UnreadLine} (h : it.next? = some (.error u, it')) :
    it.onEveryLine f s = ⟨s, .error u.chain, it'.rest⟩ := by
  rw [onEveryLine]
  split
  · next h' => cases h.symm.trans h'
  · next h' =>
    cases h.symm.trans h'
    rfl
  · next h' => cases h.symm.trans h'

lemma onEveryLine_of_ok (h : it.next? = some (.ok l, it')) :
    it.onEveryLine f s =
      match (f.run it' l s).outcome with
      | .error _ => (f.run it' l s).context ("in line ".toList ++ Text.decimal l.number)
      | .ok () => onEveryLine f ⟨it.depth, (f.run it' l s).rest⟩ (f.run it' l s).state := by
  rw [onEveryLine]
  split
  · next h' => cases h.symm.trans h'
  · next h' => cases h.symm.trans h'
  · next h' =>
    cases h.symm.trans h'
    rfl

end NestedLines

/-! ### The lines one by one -/

/-- The entries of lines that are numbered already, and the fault that ended them. -/
def entriesOf (above : Option Nat) :
    List (Except UnreadLine Line) → List Entry × Option LoadError
  | [] => ([], none)
  | .error u :: _ => ([], some ⟨u.number, above, .unreadable u.fault⟩)
  | .ok l :: rest =>
    match Entry.ofLine? above l with
    | .error e => ([], some e)
    | .ok entry =>
      let r := entriesOf (Entry.above entry above) rest
      (entry.toList ++ r.1, r.2)

lemma ofLine?_of_ignored (h : l.isIgnored = true) : Entry.ofLine? above l = .ok none := by
  simp only [Entry.ofLine?, h, if_true]

lemma entriesFrom_eq (number : Nat) (above : Option Nat) (ls : List (Except ReadFault Text)) :
    entriesFrom number above ls = entriesOf above ((numberedFrom number ls).filter isKept) := by
  induction ls generalizing number above with
  | nil => rfl
  | cons x rest ih =>
    rcases x with f | text
    · rfl
    · rcases hi : (Line.ofText number text).isIgnored with _ | _
      · have hkept : isKept (.ok (Line.ofText number text)) = true := by rw [isKept, hi]; rfl
        rw [entriesFrom, numberedFrom, List.filter_cons_of_pos hkept, entriesOf]
        rcases Entry.ofLine? above (Line.ofText number text) with e | entry
        · rfl
        · simp only [ih]
      · have hkept : ¬isKept (.ok (Line.ofText number text)) = true := by rw [isKept, hi]; decide
        rw [entriesFrom, ofLine?_of_ignored hi, numberedFrom, List.filter_cons_of_neg hkept, ← ih]
        rfl

namespace Draft

/-- What has become of a draft when all entries of the lines were taken in, and their fault. -/
def takeAll (packages : Bool) (above : Option Nat) (owner : Option Text) (s : Draft)
    (items : List (Except UnreadLine Line)) : Draft × Option LoadError :=
  let (es, fault) := entriesOf above items
  let (p, events) := Progress.run packages ⟨s.table, owner⟩ es
  (⟨p.table, s.events ++ events⟩, fault)

lemma takeAll_nil : s.takeAll packages above owner [] = (s, none) := by
  simp [takeAll, entriesOf, Progress.run]

lemma takeAll_unread (u : UnreadLine) :
    s.takeAll packages above owner (.error u :: items) =
      (s, some ⟨u.number, above, .unreadable u.fault⟩) := by
  simp [takeAll, entriesOf, Progress.run]

lemma takeAll_of_error {e : LoadError} (h : Entry.ofLine? above l = .error e) :
    s.takeAll packages above owner (.ok l :: items) = (s, some e) := by
  simp [takeAll, entriesOf, h, Progress.run]

/-- One entry is taken in if what comes of it is the draft `s'` and the members behind belong to
`owner'`. -/
lemma takeAll_of_ok {e : Entry} {s' : Draft} {owner' : Option Text} {events : List Event}
    (h : Entry.ofLine? above l = .ok (some e))
    (hstep : Progress.step packages ⟨s.table, owner⟩ e = (⟨s'.table, owner'⟩, events))
    (hevents : s'.events = s.events ++ events) :
    s.takeAll packages above owner (.ok l :: items) =
      s'.takeAll packages (Entry.above (some e) above) owner' items := by
  simp [takeAll, entriesOf, h, Progress.run, hstep, hevents]

lemma exists_step_member (packages : Bool) (owner : Option Text) (m : Member) (b : Text)
    (s : Draft) : ∃ events,
      Progress.step packages ⟨s.table, owner⟩ (.member m b) =
        (⟨(s.addMember owner m b).table, owner⟩, events) ∧
      (s.addMember owner m b).events = s.events ++ events := by
  rcases m with d | d
  · rcases owner with _ | o
    · exact ⟨[], rfl, (List.append_nil _).symm⟩
    · exact ⟨_, rfl, rfl⟩
  · exact ⟨_, rfl, rfl⟩

lemma exists_step_classLine (packages : Bool) (owner : Option Text) (l : Line) (o b : Text)
    (s : Draft) : ∃ events,
    Progress.step packages ⟨s.table, owner⟩ (.classLine l.number l.content o b) =
      (⟨(s.addClass packages l o b).1.table, (s.addClass packages l o b).2⟩, events) ∧
    (s.addClass packages l o b).1.events = s.events ++ events := by
  rcases hd : (if packages then derivePackage s.table o b else (s.table, [])) with ⟨t, derived⟩
  rcases ha : t.addClass o b with ⟨u, _ | _⟩
  · simp [Progress.step, addClass, hd, ha]
  · simp [Progress.step, addClass, hd, ha]

lemma takeAll_orphan (hi : l.isIgnored = false) (hl : l.indented = true) :
    s.takeAll packages none none (.ok l :: items) =
      takeAll packages none none
        ⟨s.table, s.events ++ [.report (.orphanMember l.number l.content)]⟩ items := by
  have hline : Entry.ofLine? none l = .ok (some (.orphan l.number l.content)) := by
    simp [Entry.ofLine?, hi, hl]
  exact takeAll_of_ok hline rfl rfl

lemma takeAll_badMember {n : Nat} {f : LineFault} (hi : l.isIgnored = false)
    (hl : l.indented = true) (hn : l.memberNames = .error f) :
    s.takeAll packages (some n) owner (.ok l :: items) =
      (s, some ⟨l.number, some n, .malformed f⟩) :=
  takeAll_of_error (by simp [Entry.ofLine?, hi, hl, hn])

lemma takeAll_member {n : Nat} {d b : Text} (hi : l.isIgnored = false) (hl : l.indented = true)
    (hn : l.memberNames = .ok (d, b)) :
    s.takeAll packages (some n) owner (.ok l :: items) =
      (s.addMember owner (Member.ofText d) b).takeAll packages (some n) owner items := by
  have hline : Entry.ofLine? (some n) l = .ok (some (.member (Member.ofText d) b)) := by
    simp [Entry.ofLine?, hi, hl, hn]
  obtain ⟨events, hstep, hevents⟩ := s.exists_step_member packages owner (Member.ofText d) b
  exact takeAll_of_ok hline hstep hevents

lemma takeAll_badClass {f : LineFault} (hi : l.isIgnored = false) (hl : l.indented = false)
    (hn : l.classNames = .error f) :
    s.takeAll packages above owner (.ok l :: items) =
      (s, some ⟨l.number, none, .malformed f⟩) :=
  takeAll_of_error (by simp [Entry.ofLine?, hi, hl, hn])

/-- A class line is taken in alike whatever stands above. -/
lemma takeAll_classLine {o b : Text} (hi : l.isIgnored = false) (hl : l.indented = false)
    (hn : l.classNames = .ok (o, b)) :
    s.takeAll packages above owner (.ok l :: items) =
      (s.addClass packages l o b).1.takeAll packages (some l.number)
        (s.addClass packages l o b).2 items := by
  have hline : Entry.ofLine? above l = .ok (some (.classLine l.number l.content o b)) := by
    simp [Entry.ofLine?, hi, hl, hn]
  obtain ⟨events, hstep, hevents⟩ := s.exists_step_classLine packages owner l o b
  exact takeAll_of_ok hline hstep hevents

end Draft

/-! ### The two loops -/

/-- All of the lines carry something. -/
def AllKept (items : List (Except UnreadLine Line)) : Prop := ∀ x ∈ items, isKept x = true

/-- No line is left, or one at the margin comes next. -/
def AtMargin (items : List (Except UnreadLine Line)) : Prop :=
  ∀ x ∈ items.head?, ∃ l : Line, x = .ok l ∧ l.indented = false

lemma AllKept.isIgnored (h : AllKept (.ok l :: items)) : l.isIgnored = false := by
  have hkept := h _ List.mem_cons_self
  simpa [isKept] using hkept

lemma AllKept.of_cons {x : Except UnreadLine Line} (h : AllKept (x :: items)) : AllKept items :=
  fun y hy => h y (List.mem_cons_of_mem x hy)

/-- At the margin it does not matter which class the members above belonged to. -/
lemma AtMargin.takeAll_eq (h : AtMargin items) (hkept : AllKept items) :
    s.takeAll packages above owner items = s.takeAll packages none none items := by
  rcases items with _ | ⟨x, items⟩
  · rw [Draft.takeAll_nil, Draft.takeAll_nil]
  · obtain ⟨l, rfl, hl⟩ := h x rfl
    have hi := hkept.isIgnored
    rcases hn : l.classNames with f | ⟨o, b⟩
    · rw [Draft.takeAll_badClass hi hl hn, Draft.takeAll_badClass hi hl hn]
    · rw [Draft.takeAll_classLine hi hl hn, Draft.takeAll_classLine hi hl hn]

/-- How the loop over the members below class line `n` ends: with an error that the class line is
told of, or at the margin, with the members taken in so far. -/
inductive MembersTaken (packages : Bool) (n : Nat) (owner : Option Text) (s : Draft)
    (items : List (Except UnreadLine Line)) (p : Passed Draft) : Prop
  | fault {e : LoadError} {chain : List Text} (outcome : p.outcome = .error chain)
    (told : e.chain = "reading lines".toList :: ("in line ".toList ++ Text.decimal n) ::
      "reading class members".toList :: chain)
    (taken : s.takeAll packages (some n) owner items = (p.state, some e))
  | margin (outcome : p.outcome = .ok ()) (atMargin : AtMargin p.rest) (kept : AllKept p.rest)
    (taken : s.takeAll packages (some n) owner items =
      p.state.takeAll packages (some n) owner p.rest)

/-- **The inner loop.** -/
theorem membersTaken (packages : Bool) (n : Nat) (owner : Option Text) (s : Draft)
    (hkept : AllKept items) : MembersTaken packages n owner s items
      (NestedLines.onEveryLine (visitMember owner) ⟨1, items⟩ s) := by
  induction items generalizing s with
  | nil =>
    rw [NestedLines.onEveryLine_of_none rfl]
    exact .margin rfl (fun x hx => by cases hx) hkept rfl
  | cons x items ih =>
    have hrest := hkept.of_cons
    rcases x with u | l
    · rw [NestedLines.onEveryLine_of_error rfl]
      exact .fault rfl rfl (Draft.takeAll_unread u)
    · have hi := hkept.isIgnored
      rcases hl : l.indented with _ | _
      · have hstop : NestedLines.next? ⟨1, .ok l :: items⟩ = none := by
          simp [NestedLines.next?, Line.depth, hl]
        rw [NestedLines.onEveryLine_of_none hstop]
        exact .margin rfl (fun x hx => ⟨l, (Option.some.inj hx).symm, hl⟩) hkept rfl
      · have hnext : NestedLines.next? ⟨1, .ok l :: items⟩ = some (.ok l, ⟨1, items⟩) := by
          simp [NestedLines.next?, Line.depth, hl]
        rw [NestedLines.onEveryLine_of_ok hnext]
        rcases hn : l.memberNames with f | ⟨d, b⟩
        · simp only [visitMember, hn]
          exact .fault rfl rfl (Draft.takeAll_badMember hi hl hn)
        · simp only [visitMember, hn]
          rcases ih (s.addMember owner (Member.ofText d) b) hrest with
            ⟨outcome, told, taken⟩ | ⟨outcome, atMargin, kept, taken⟩
          · exact .fault outcome told ((Draft.takeAll_member hi hl hn).trans taken)
          · exact .margin outcome atMargin kept ((Draft.takeAll_member hi hl hn).trans taken)

lemma run_visitClass {o b : Text} (hl : l.indented = false) (hn : l.classNames = .ok (o, b)) :
    (visitClass packages).run ⟨0, items⟩ l s =
      (NestedLines.onEveryLine (visitMember (s.addClass packages l o b).2) ⟨1, items⟩
        (s.addClass packages l o b).1).context "reading class members".toList := by
  simp only [visitClass, hl, hn, Bool.false_eq_true, if_false, NestedLines.nextLevel]

/-- How a round of the outer loop on the line `l` ends: with an error that is told of this line, or
in front of a line that is taken in as if nothing stood above. -/
inductive RoundTaken (packages : Bool) (s : Draft) (l : Line)
    (items : List (Except UnreadLine Line)) (p : Passed Draft) : Prop
  | fault {e : LoadError} {chain : List Text} (outcome : p.outcome = .error chain)
    (told : e.chain = "reading lines".toList :: ("in line ".toList ++ Text.decimal l.number) ::
      chain)
    (taken : s.takeAll packages none none (.ok l :: items) = (p.state, some e))
  | passed (outcome : p.outcome = .ok ()) (kept : AllKept p.rest)
    (taken : s.takeAll packages none none (.ok l :: items) =
      p.state.takeAll packages none none p.rest)

lemma roundTaken (packages : Bool) (s : Draft) (hkept : AllKept (.ok l :: items)) :
    RoundTaken packages s l items ((visitClass packages).run ⟨0, items⟩ l s) := by
  have hi := hkept.isIgnored
  have hrest := hkept.of_cons
  rcases hl : l.indented with _ | _
  · rcases hn : l.classNames with f | ⟨o, b⟩
    · simp only [visitClass, hl, hn, Bool.false_eq_true, if_false]
      exact .fault rfl rfl (Draft.takeAll_badClass hi hl hn)
    · have hclass : s.takeAll packages none none (.ok l :: items) = _ :=
        Draft.takeAll_classLine hi hl hn
      rw [run_visitClass hl hn]
      rcases membersTaken packages l.number (s.addClass packages l o b).2
        (s.addClass packages l o b).1 hrest with
        ⟨outcome, told, taken⟩ | ⟨outcome, atMargin, kept, taken⟩
      · exact .fault (by rw [Passed.outcome_context, outcome]) told (hclass.trans taken)
      · exact .passed (by rw [Passed.outcome_context, outcome]) kept
          (hclass.trans (taken.trans (atMargin.takeAll_eq kept)))
  · simp only [visitClass, hl, if_true]
    exact .passed rfl hrest (Draft.takeAll_orphan hi hl)

/-- **The outer loop.** -/
theorem classesTaken (packages : Bool) (s : Draft) (hkept : AllKept items) :
    (NestedLines.onEveryLine (visitClass packages) ⟨0, items⟩ s).state =
      (s.takeAll packages none none items).1 ∧
    ((NestedLines.onEveryLine (visitClass packages) ⟨0, items⟩ s).context
        "reading lines".toList).outcome =
      match (s.takeAll packages none none items).2 with
      | none => .ok ()
      | some e => .error e.chain := by
  -- not on the lines themselves: a round takes the members behind its line, too
  induction hm : items.length using Nat.strongRecOn generalizing items s with
  | _ m ih =>
    subst hm
    rcases items with _ | ⟨u | l, items⟩
    · rw [NestedLines.onEveryLine_of_none rfl, Draft.takeAll_nil]
      exact ⟨rfl, rfl⟩
    · rw [NestedLines.onEveryLine_of_error rfl, Draft.takeAll_unread]
      exact ⟨rfl, rfl⟩
    · have hnext : NestedLines.next? ⟨0, .ok l :: items⟩ = some (.ok l, ⟨0, items⟩) := by
        simp [NestedLines.next?]
      have hle := (visitClass packages).le ⟨0, items⟩ l s
      rw [NestedLines.onEveryLine_of_ok hnext]
      rcases roundTaken packages s hkept with ⟨outcome, told, taken⟩ | ⟨outcome, kept, taken⟩
      · rw [taken]
        simp only [outcome, Passed.outcome_context, Passed.state_context, told, and_self]
      · rw [taken]
        simp only [outcome]
        exact ih _ (Nat.lt_succ_of_le hle) _ kept rfl

/-- **Nested loops come to the same** as taking in the entries one by one: the same happens on the
way, and there is the same table or an error with the same messages. -/
theorem readNested_eq (packages : Bool) (s : Source) :
    readNested packages s =
      ((read packages s).1, (read packages s).2.mapError LoadError.chain) := by
  have hkept : AllKept ((numberedFrom 1 (dropMarks s.lines)).filter isKept) := fun x hx =>
    (List.mem_filter.1 hx).2
  obtain ⟨hstate, houtcome⟩ := classesTaken packages {} hkept
  have hentries : entriesOf none ((numberedFrom 1 (dropMarks s.lines)).filter isKept) =
      entries s := (entriesFrom_eq 1 none _).symm
  rw [Draft.takeAll, hentries] at hstate houtcome
  rcases he : entries s with ⟨es, fault⟩
  rcases hp : Progress.run packages {} es with ⟨p, events⟩
  simp only [he, hp, List.nil_append] at hstate houtcome
  rcases fault with _ | e
  · simp only [readNested, read, he, hp, houtcome, Passed.state_context, hstate]
    rfl
  · simp only [readNested, read, he, hp, houtcome, Passed.state_context, hstate]
    rfl

end Unmask.Mapping
