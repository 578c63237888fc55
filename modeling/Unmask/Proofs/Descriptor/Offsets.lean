import Unmask.Proofs.Descriptor.Fault
import Unmask.Proofs.Text.Octets

/-!
Reading by offsets against taking types off the front of a text. The part of the text between the
two offsets of a call is what the other reader is given, so both find the same, and no call or cut
leaves the text.
-/

namespace Unmask.Descriptor

/-- The step keeps to the text, and a call to the limit of arrays. -/
def Step.InBounds (d : Text) : Step → Prop
  | .call position stop depth => d.InBounds position stop ∧ depth ≤ maxLevels
  | .cut start stop => d.InBounds start stop

def Step.isCall : Step → Bool
  | .call .. => true
  | .cut .. => false

def Outcome.ofExcept {α : Type} : Except Error α → Outcome α
  | .ok a => .result a
  | .error e => .error e

lemma Outcome.ofExcept_eq_result {α : Type} {r : Except Error α} {a : α} :
    ofExcept r = .result a ↔ r = .ok a := by
  cases r <;> simp [ofExcept]

lemma Outcome.ofExcept_eq_error {α : Type} {r : Except Error α} {e : Error} :
    ofExcept r = .error e ↔ r = .error e := by
  cases r <;> simp [ofExcept]

/-- The reading comes to `r` without a crash, and no step of it is out of bounds. -/
structure Reading.Gives {α : Type} (d : Text) (x : Reading α) (r : Except Error α) : Prop where
  steps : ∀ step ∈ x.steps, step.InBounds d
  outcome : x.outcome = .ofExcept r

namespace Reading

variable {α β : Type} {d part : Text} {x : Reading α} {f : α → Reading β} {start stop : Nat}

lemma gives_pure (a : α) : (pure a : Reading α).Gives d (.ok a) :=
  ⟨fun _ h => absurd h List.not_mem_nil, rfl⟩

lemma gives_fail (e : Error) : (fail e : Reading α).Gives d (.error e) :=
  ⟨fun _ h => absurd h List.not_mem_nil, rfl⟩

lemma gives_record {step : Step} (h : step.InBounds d) : (record step).Gives d (.ok ()) where
  steps s hs := by
    obtain rfl := List.mem_singleton.1 hs
    exact h
  outcome := rfl

lemma gives_cut (h : d.cutOut? start stop = some part) : (cut d start stop).Gives d (.ok part) where
  steps s hs := by
    obtain rfl := List.mem_singleton.1 hs
    exact Text.inBounds_of_cutOut? h
  outcome := by
    rw [cut, h]
    rfl

lemma Gives.bind {a : α} {r : Except Error β} (hx : x.Gives d (.ok a)) (hf : (f a).Gives d r) :
    (x >>= f).Gives d r := by
  have he : x >>= f = ⟨x.steps ++ (f a).steps, (f a).outcome⟩ := by
    show x.bind f = _
    rw [Reading.bind, hx.outcome]
    rfl
  rw [he]
  refine ⟨fun step hs => ?_, hf.outcome⟩
  rcases List.mem_append.1 hs with hs | hs
  · exact hx.steps step hs
  · exact hf.steps step hs

lemma Gives.bind_error {e : Error} (hx : x.Gives d (.error e)) : (x >>= f).Gives d (.error e) := by
  have he : x >>= f = ⟨x.steps, .error e⟩ := by
    show x.bind f = _
    rw [Reading.bind, hx.outcome]
    rfl
  rw [he]
  exact ⟨hx.steps, rfl⟩

end Reading

open Reading

variable {d part : Text} {position stop depth : Nat}

/-! ### One type -/

/-- What is read off the front of a part that starts at `position`, as told of the whole text. -/
def placed (d : Text) (position : Nat) :
    Except Fault (JavaType × Text) → Except Error (JavaType × Nat)
  | .ok (t, _) => .ok (t, position + Text.octets t.descriptor)
  | .error f => .error ((f.shift position).within d)

lemma placed_shift (d : Text) (position n : Nat) (f : Fault) :
    placed d position (.error (f.shift n)) = placed d (position + n) (.error f) := by
  rw [placed, placed, Fault.shift_shift]

/-- A call starts with the part that it is about. -/
lemma gives_call {α : Type} {f : Text → Reading α} {r : Except Error α}
    (h : d.cutOut? position stop = some part) (hd : depth ≤ maxLevels) (hf : (f part).Gives d r) :
    (record (.call position stop depth) >>= fun _ => cut d position stop >>= f).Gives d r := by
  have hcall : (Step.call position stop depth).InBounds d := ⟨Text.inBounds_of_cutOut? h, hd⟩
  exact (gives_record hcall).bind ((gives_cut h).bind hf)

/-- A class is found that is cut off at the first `;`. -/
lemma gives_readObjectAt {r : Text} (h : d.cutOut? (position + 1) stop = some r) :
    (readObjectAt d position stop).Gives d (placed d position
      (match Text.cutFirst ';' r with
      | none => .error ⟨0, .unterminatedClass⟩
      | some (name, rest) =>
        if name = [] then .error ⟨0, .emptyClassName⟩ else .ok (.object name, rest))) := by
  rw [readObjectAt]
  refine (gives_cut h).bind ?_
  rcases hc : Text.cutFirst ';' r with _ | ⟨name, rest⟩
  · simp only [Text.findFirst?, hc]
    exact gives_fail _
  · obtain ⟨rfl, -⟩ := Text.eq_of_cutFirst hc
    simp only [Text.findFirst?, hc, Option.map_some, Text.octets_eq_zero_iff]
    by_cases hn : name = []
    · rw [if_pos hn, if_pos hn]
      exact gives_fail _
    · have hnext : position + 1 + Text.octets name + 1 =
          position + Text.octets (JavaType.object name).descriptor := by
        have hl : 'L'.utf8Size = 1 := rfl
        have hs : ';'.utf8Size = 1 := rfl
        simp only [JavaType.descriptor, Text.octets_append, Text.octets_cons, Text.octets_nil, hl,
          hs, List.cons_append]
        omega
      rw [if_neg hn, if_neg hn, hnext]
      exact (gives_cut (Text.cutOut?_append_left h)).bind (gives_pure _)

/-- An array is found if its component is, and the component is not `void`. -/
lemma gives_array {x : Reading (JavaType × Nat)} {r : Except Fault (JavaType × Text)} :
    x.Gives d (placed d (position + 1) r) →
      (do
        let (element, next) ← x
        if element.isVoid then fail ⟨d, position + 1, .misplacedVoid⟩
        else return (JavaType.array element, next)).Gives d
      (placed d position
        (match r with
        | .error f => .error (f.shift 1)
        | .ok (element, rest) =>
          if element.isVoid then .error ⟨1, .misplacedVoid⟩ else .ok (.array element, rest))) := by
  intro h
  rcases r with f | ⟨element, rest⟩
  · simp only [placed_shift]
    exact h.bind_error
  · refine h.bind ?_
    rcases hv : element.isVoid with _ | _
    · have hnext : position + 1 + Text.octets element.descriptor =
          position + Text.octets element.array.descriptor := Nat.add_assoc _ _ _
      simp only [hv, Bool.false_eq_true, if_false, hnext]
      exact gives_pure _
    · simp only [hv, if_true]
      exact gives_fail _

/-- **One type.** In bounds, a call finds what is read off the front of its part. -/
theorem gives_readTypeAt (h : d.cutOut? position stop = some part) (hd : depth ≤ maxLevels) :
    (readTypeAt d position stop depth).Gives d (placed d position (readType depth part)) := by
  induction part generalizing position depth with
  | nil =>
    rw [readTypeAt]
    exact gives_call h hd (gives_fail _)
  | cons c r ih =>
    rw [readTypeAt, readType]
    refine gives_call h hd ?_
    simp only [List.head?_cons]
    by_cases hm : c = '['
    · subst hm
      rw [if_pos rfl, if_pos rfl]
      by_cases hlimit : maxLevels ≤ depth
      · rw [if_pos hlimit, if_pos hlimit]
        exact gives_fail _
      · have hr : d.cutOut? (position + 1) stop = some r :=
          Text.cutOut?_append_right (a := ['[']) h
        have hcall := ih hr (show depth + 1 ≤ maxLevels by omega)
        rw [if_neg hlimit, if_neg hlimit]
        exact gives_array hcall
    · rw [if_neg hm, if_neg hm]
      by_cases ho : c = 'L'
      · subst ho
        rw [if_pos rfl, if_pos rfl]
        exact gives_readObjectAt (Text.cutOut?_append_right (a := ['L']) h)
      · rw [if_neg ho, if_neg ho]
        rcases hp : Primitive.ofCode? c with _ | p
        · exact gives_fail _
        · obtain rfl := Primitive.code_of_ofCode? hp
          exact gives_pure _

/-! ### Parameters and return type -/

/-- The parameters of a part from `cursor` to `close`, as told of the whole text. -/
def placedList (d : Text) (cursor close : Nat) :
    Except Fault (List JavaType) → Except Error (List JavaType × Nat)
  | .ok ts => .ok (ts, close)
  | .error f => .error ((f.shift cursor).within d)

/-- One round of the loop takes one type off the part. -/
lemma gives_round {close cursor : Nat} {t : JavaType} {rest : Text}
    (h : d.cutOut? cursor close = some (t.descriptor ++ rest))
    (hr : readType 0 (t.descriptor ++ rest) = .ok (t, rest))
    (hrest : (readParametersAt d close (cursor + Text.octets t.descriptor)).Gives d
      (placedList d (cursor + Text.octets t.descriptor) close (readParameters rest))) :
    (readParametersAt d close cursor).Gives d
      (placedList d cursor close (readParameters (t.descriptor ++ rest))) := by
  have hpart : t.descriptor ++ rest ≠ [] := by simp [t.descriptor_ne_nil]
  have htaken := octets_descriptor_ne_zero t
  have hlt : cursor < close := by
    have hclose := Text.add_octets_of_cutOut? h
    rw [Text.octets_append] at hclose
    omega
  have hnext : ¬cursor + Text.octets t.descriptor ≤ cursor := by omega
  have hcall := gives_readTypeAt h (Nat.zero_le maxLevels)
  rw [hr] at hcall
  rw [readParametersAt, if_pos hlt, readParameters_of_ne_nil hpart, hr]
  refine hcall.bind ?_
  rcases hv : t.isVoid with _ | _
  · simp only [hnext, hv, if_false, Bool.false_eq_true]
    rcases hts : readParameters rest with f | ts
    · rw [hts] at hrest
      simp only [placedList, Fault.shift_shift]
      exact hrest.bind_error
    · rw [hts] at hrest
      exact hrest.bind (gives_pure _)
  · simp only [hnext, hv, if_false, if_true]
    exact gives_fail _

/-- **The parameters.** The loop ends where the parameters do, unless it comes to a fault. -/
theorem gives_readParametersAt {close cursor : Nat} (h : d.cutOut? cursor close = some part) :
    (readParametersAt d close cursor).Gives d
      (placedList d cursor close (readParameters part)) := by
  induction hn : part.length using Nat.strongRecOn generalizing part cursor with
  | _ n ih =>
    subst hn
    by_cases hpart : part = []
    · subst hpart
      obtain rfl : cursor = close := Text.add_octets_of_cutOut? h
      rw [readParametersAt, if_neg (Nat.lt_irrefl _), readParameters, if_pos rfl]
      exact gives_pure _
    · rcases hr : readType 0 part with f | ⟨t, rest⟩
      · have hcall := gives_readTypeAt h (Nat.zero_le maxLevels)
        have hlt : cursor < close := by
          have := mt Text.octets_eq_zero_iff.1 hpart
          have := Text.add_octets_of_cutOut? h
          omega
        rw [hr] at hcall
        rw [readParametersAt, if_pos hlt, readParameters_of_ne_nil hpart, hr]
        exact hcall.bind_error
      · have hshort := length_lt_of_readType hr
        obtain rfl := eq_descriptor_of_readType hr
        exact gives_round h hr (ih _ hshort (Text.cutOut?_append_right h) rfl)

theorem gives_readWholeAt (h : d.cutOut? position d.octets = some part) :
    (readWholeAt d position).Gives d
      ((readWhole part).mapError fun f => (f.shift position).within d) := by
  have hcall := gives_readTypeAt h (Nat.zero_le _)
  rw [readWholeAt, readWhole]
  rcases hr : readType 0 part with f | ⟨t, rest⟩
  · rw [hr] at hcall
    exact hcall.bind_error
  · rw [hr] at hcall
    refine hcall.bind ?_
    obtain rfl := eq_descriptor_of_readType hr
    have hstop := Text.add_octets_of_cutOut? h
    rw [Text.octets_append] at hstop
    have hend : position + Text.octets t.descriptor = d.octets ↔ rest = [] := by
      rw [← Text.octets_eq_zero_iff]
      omega
    simp only [hend]
    by_cases hrest : rest = []
    · rw [if_pos hrest, if_pos hrest]
      exact gives_pure _
    · rw [if_neg hrest, if_neg hrest]
      exact (gives_cut (Text.cutOut?_append_right h)).bind (gives_fail _)

theorem gives_decodeTypeAt (d : Text) : (decodeTypeAt d).Gives d (decodeType d) := by
  have hall : d.cutOut? 0 d.octets = some d :=
    Text.cutOut?_eq_some_iff.2 ⟨[], [], by simp, rfl, by simp⟩
  have h := gives_readWholeAt hall
  simp only [Fault.shift_zero] at h
  exact h

/-- The last `)` of a text that is opened lies behind the opening. -/
lemma findLast?_open (body : Text) : Text.findLast? ')' ('(' :: body) =
    (Text.cutLast ')' body).map fun p => 1 + Text.octets p.1 := by
  rw [Text.findLast?, Text.cutLast]
  rcases Text.cutLast ')' body with _ | p
  · rfl
  · rfl

/-- What is between the parentheses, and what is behind them. -/
lemma cutOut?_parameters (parameters result : Text) :
    Text.cutOut? ('(' :: parameters ++ ')' :: result) 1 (1 + Text.octets parameters) =
      some parameters :=
  Text.cutOut?_eq_some_iff.2 ⟨['('], ')' :: result, rfl, rfl, rfl⟩

lemma cutOut?_result (parameters result : Text) :
    Text.cutOut? ('(' :: parameters ++ ')' :: result) (1 + Text.octets parameters + 1)
      (Text.octets ('(' :: parameters ++ ')' :: result)) = some result := by
  refine Text.cutOut?_eq_some_iff.2 ⟨'(' :: parameters ++ [')'], [], by simp, ?_, ?_⟩
  · rw [Text.octets_append, octets_open]
    rfl
  · rw [octets_parentheses]
    omega

theorem gives_decodeAt (d : Text) : (decodeAt d).Gives d (decode d) := by
  rw [decodeAt, decode]
  by_cases hopen : d.head? = some '('
  · obtain ⟨body, rfl⟩ := List.head?_eq_some_iff.1 hopen
    rw [if_pos hopen, findLast?_open]
    rcases hc : Text.cutLast ')' body with _ | ⟨parameters, result⟩
    · rw [readSignature_of_not_closed (Text.cutLast_eq_none.1 hc)]
      exact gives_fail _
    · obtain ⟨rfl, hclose⟩ := Text.eq_of_cutLast hc
      have hparameters := gives_readParametersAt (cutOut?_parameters parameters result)
      have hresult := gives_readWholeAt (cutOut?_result parameters result)
      rw [← List.cons_append, readSignature_append parameters hclose]
      simp only [Option.map_some]
      rcases hp : readParameters parameters with f | ts
      · rw [hp] at hparameters
        exact hparameters.bind_error
      · rw [hp] at hparameters
        refine hparameters.bind ?_
        rcases hr : readWhole result with f | t
        · have hclosed : Text.octets parameters + 2 = 1 + Text.octets parameters + 1 := by omega
          rw [hr] at hresult
          simp only [hclosed]
          exact hresult.bind_error
        · rw [hr] at hresult
          exact hresult.bind (gives_pure _)
  · rw [if_neg hopen, readSignature_of_not_opened hopen]
    exact gives_fail _

/-! ### The calls of one reading -/

/-- How often the reader of one type was called. -/
def Reading.calls {α : Type} (x : Reading α) : Nat := x.steps.countP Step.isCall

lemma calls_bind_le {α β : Type} {x : Reading α} {f : α → Reading β} {n : Nat}
    (h : ∀ a, (f a).calls ≤ n) : (x >>= f).calls ≤ x.calls + n := by
  show (x.bind f).calls ≤ _
  rw [Reading.bind]
  rcases x.outcome with a | e | _
  · show List.countP _ (x.steps ++ (f a).steps) ≤ _
    rw [List.countP_append]
    exact Nat.add_le_add_left (h a) _
  · exact Nat.le_add_right _ _
  · exact Nat.le_add_right _ _

lemma calls_cut_bind_le {α : Type} {f : Text → Reading α} {start n : Nat}
    (h : ∀ a, (f a).calls ≤ n) : (cut d start stop >>= f).calls ≤ n := by
  have hcut : (cut d start stop).calls = 0 := rfl
  have hle := calls_bind_le (x := cut d start stop) h
  rwa [hcut, Nat.zero_add] at hle

lemma calls_readObjectAt (d : Text) (position stop : Nat) :
    (readObjectAt d position stop).calls = 0 := by
  refine Nat.le_zero.1 (calls_cut_bind_le fun rest => ?_)
  split
  · exact Nat.le_refl 0
  · split
    · exact Nat.le_refl 0
    · exact calls_cut_bind_le fun name => Nat.le_refl 0

/-- A call makes one more if it is for an array, so few in all. -/
theorem calls_readTypeAt (d : Text) (position stop depth : Nat) :
    (readTypeAt d position stop depth).calls ≤ 1 + (maxLevels - depth) := by
  induction position, depth using readTypeAt.induct with
  | case1 position depth ih =>
    rw [readTypeAt]
    refine calls_bind_le fun _ => calls_cut_bind_le fun part => ?_
    split
    · exact Nat.zero_le _
    · split
      · split
        · exact Nat.zero_le _
        · next hlimit =>
          have hlevel : 1 + (maxLevels - (depth + 1)) ≤ maxLevels - depth := by omega
          refine Nat.le_trans (calls_bind_le (n := 0) fun found => ?_)
            (Nat.le_trans (ih hlimit) hlevel)
          obtain ⟨element, next⟩ := found
          dsimp only
          split
          · exact Nat.le_refl 0
          · exact Nat.le_refl 0
      · split
        · rw [calls_readObjectAt]
          exact Nat.zero_le _
        · split
          · exact Nat.zero_le _
          · exact Nat.zero_le _

/-! ### A whole descriptor -/

/-- The step keeps to the text, and a call to the limit of arrays. A call that finds a type has
moved on and not too far, and what it moved past is the descriptor of the type. -/
def Step.Keeps (d : Text) : Step → Prop
  | .call position stop depth => d.InBounds position stop ∧ depth ≤ maxLevels ∧
    ∀ t next, (readTypeAt d position stop depth).outcome = .result (t, next) →
      position < next ∧ next ≤ stop ∧ d.IsBoundary next ∧
        d.cutOut? position next = some t.descriptor
  | .cut start stop => d.InBounds start stop

/-- In bounds, a call that finds a type has read its descriptor. -/
lemma Step.InBounds.keeps {step : Step} (h : step.InBounds d) : step.Keeps d := by
  cases step with
  | cut start stop => exact h
  | call position stop depth =>
    obtain ⟨hbounds, hdepth⟩ := h
    refine ⟨hbounds, hdepth, fun t next hfound => ?_⟩
    obtain ⟨part, hpart⟩ := Text.exists_cutOut?_iff.2 hbounds
    rw [(gives_readTypeAt hpart hdepth).outcome, Outcome.ofExcept_eq_result] at hfound
    rcases hr : readType depth part with f | ⟨t', rest⟩
    · rw [hr] at hfound
      cases hfound
    · rw [hr] at hfound
      cases hfound
      obtain rfl := eq_descriptor_of_readType hr
      have hread := Text.cutOut?_append_left hpart
      have hrest := Text.inBounds_of_cutOut? (Text.cutOut?_append_right hpart)
      have hmoved := octets_descriptor_ne_zero t
      exact ⟨by omega, hrest.le, hrest.start_boundary, hread⟩

lemma cause_ne_of_decode {e : Error} (h : decode d = .error e) : e.cause ≠ .noProgress := by
  obtain ⟨f, hf, rfl⟩ := decode_eq_error_iff_readSignature.1 h
  obtain ⟨front, back, -, -, hfault⟩ := readSignature_eq_error_iff.1 hf
  exact hfault.cause_ne

lemma cause_ne_of_decodeType {e : Error} (h : decodeType d = .error e) :
    e.cause ≠ .noProgress := by
  rw [decodeType] at h
  rcases hr : readWhole d with f | t
  · rw [hr] at h
    cases h
    obtain ⟨front, back, -, -, hfault⟩ := readWhole_eq_error_iff.1 hr
    exact hfault.cause_ne
  · rw [hr] at h
    cases h

/-- **Reading by offsets.** Whatever the text, every call and every cut keeps to it, so reading
never crashes and finds what taking types off the front finds. Calls nest at most one deeper than
arrays may. The loop over the parameters comes to an error or ends right at the last `)`, and no
error says that there was no progress. -/
theorem readings_keep_to_text (d : Text) :
    (∀ step ∈ (decodeAt d).steps ++ (decodeTypeAt d).steps, step.Keeps d) ∧
    ((decodeAt d).outcome = .ofExcept (decode d) ∧
      (decodeTypeAt d).outcome = .ofExcept (decodeType d)) ∧
    (∀ position stop, (readTypeAt d position stop 0).calls ≤ 256) ∧
    (∀ close, d.head? = some '(' → d.findLast? ')' = some close →
      (∃ e, (readParametersAt d close 1).outcome = .error e) ∨
      ∃ ts, (readParametersAt d close 1).outcome = .result (ts, close)) ∧
    ∀ e, (decodeAt d).outcome = .error e ∨ (decodeTypeAt d).outcome = .error e →
      e.cause ≠ .noProgress := by
  have hdecode := gives_decodeAt d
  have hdecodeType := gives_decodeTypeAt d
  refine ⟨fun step hstep => ?_, ⟨hdecode.outcome, hdecodeType.outcome⟩,
    fun position stop => calls_readTypeAt d position stop 0, fun close hopen hclose => ?_,
    fun e he => ?_⟩
  · rcases List.mem_append.1 hstep with hstep | hstep
    · exact (hdecode.steps step hstep).keeps
    · exact (hdecodeType.steps step hstep).keeps
  · obtain ⟨body, rfl⟩ := List.head?_eq_some_iff.1 hopen
    rw [findLast?_open] at hclose
    obtain ⟨⟨parameters, result⟩, hc, rfl⟩ := Option.map_eq_some_iff.1 hclose
    obtain ⟨rfl, -⟩ := Text.eq_of_cutLast hc
    have hloop := gives_readParametersAt (cutOut?_parameters parameters result)
    rcases hp : readParameters parameters with f | ts
    · rw [hp] at hloop
      exact .inl ⟨_, hloop.outcome⟩
    · rw [hp] at hloop
      exact .inr ⟨ts, hloop.outcome⟩
  · rw [hdecode.outcome, hdecodeType.outcome, Outcome.ofExcept_eq_error,
      Outcome.ofExcept_eq_error] at he
    rcases he with he | he
    · exact cause_ne_of_decode he
    · exact cause_ne_of_decodeType he

/-- The `é` takes two octets, so the class inside of the array ends six octets in. -/
theorem readings_keep_to_accents :
    Step.call 2 6 1 ∈ (decodeAt "([Lé;)V".toList).steps ∧
    Text.InBounds "([Lé;)V".toList 2 6 ∧
    Text.cutOut? "([Lé;)V".toList 2 6 = some "Lé;".toList ∧
    (decodeAt "([Lé;)V".toList).outcome =
      .result ⟨[.array (.object ['é'])], .primitive .void⟩ := by
  obtain ⟨hsteps, ⟨houtcome, -⟩, -⟩ := readings_keep_to_text "([Lé;)V".toList
  have hcall : Step.call 2 6 1 ∈ (decodeAt "([Lé;)V".toList).steps := by decide +kernel
  have hfound : (readTypeAt "([Lé;)V".toList 2 6 1).outcome = .result (.object ['é'], 6) := by
    decide +kernel
  obtain ⟨hbounds, -, hread⟩ := hsteps _ (List.mem_append_left _ hcall)
  refine ⟨hcall, hbounds, (hread _ _ hfound).2.2.2, ?_⟩
  rw [houtcome, Outcome.ofExcept_eq_result]
  exact decode_eq_ok_iff.2 ⟨rfl, by decide⟩

end Unmask.Descriptor
