import Unmask.Proofs.Descriptor.Renamed
import Unmask.Proofs.Table.Reachable
import Unmask.Render.Method

/-!
What is shown with a table against what is shown without one after all names were replaced. The
names in a table are in internal form, so a name that was replaced is shown like any other name in
that form, and is not taken for the display form of another.
-/

namespace Unmask

/-! ### One name -/

namespace Table

variable {t : Table} {x : Text}

/-- A name in internal form is looked up as it is spelled. -/
lemma realClass?_of_internal (hx : '.' ∉ x) : t.realClass? x = t.classRenaming x := by
  rw [realClass?, Name.internal_eq_self hx, classRenaming]

lemma WellFormed.internal_apply (h : t.WellFormed) (hx : '.' ∉ x) :
    '.' ∉ t.classRenaming.apply x :=
  Renaming.apply_of_forall hx fun y hy => (h.class_internal x y hy).2

lemma showClass_of_internal (hx : '.' ∉ x) (q : Bool) :
    t.showClass x q = Name.display (t.classRenaming.apply x) q := by
  rw [showClass, realClass?_of_internal hx, Name.internal_eq_self hx, Renaming.apply]

lemma classRenaming_empty (x : Text) : ({} : Table).classRenaming.apply x = x := by
  simp [Renaming.apply, classRenaming]

lemma showMethod_empty (c m : Text) : ({} : Table).showMethod c m = m := by
  simp [showMethod, declaration?]

lemma WellFormed.showClass_eq (h : t.WellFormed) (hx : '.' ∉ x) (q : Bool) :
    t.showClass x q = ({} : Table).showClass (t.classRenaming.apply x) q := by
  rw [showClass_of_internal hx, showClass_of_internal (h.internal_apply hx), classRenaming_empty]

end Table

namespace Render

variable {t : Table}

/-! ### A method -/

lemma type_eq_mapNames (h : t.WellFormed) {u : JavaType} (hu : ∀ x ∈ u.className?, '.' ∉ x)
    (q : Bool) : type t q u = type {} q (u.mapNames t.classRenaming.apply) := by
  induction u with
  | primitive p => rfl
  | object name => exact h.showClass_eq (hu name rfl) q
  | array element ih =>
    have he := ih hu
    simp only [JavaType.mapNames, type, he]

lemma arguments_eq_mapNames (h : t.WellFormed) {us : List JavaType}
    (hus : ∀ u ∈ us, ∀ x ∈ u.className?, '.' ∉ x) (l : Layout) :
    arguments t l us = arguments {} l (us.map (JavaType.mapNames t.classRenaming.apply)) := by
  have hmap : us.map (type t l.qualifyArguments) =
      (us.map (JavaType.mapNames t.classRenaming.apply)).map (type {} l.qualifyArguments) := by
    rw [List.map_map]
    exact List.map_congr_left fun u hu => type_eq_mapNames h (hus u hu) _
  simp only [arguments, hmap, List.map_eq_nil_iff]

lemma signature_eq_mapNames (h : t.WellFormed) {c : Text} (hc : '.' ∉ c) {s : Signature}
    (hs : ∀ x ∈ s.classNames, '.' ∉ x) (l : Layout) (m : Text) :
    signature t l c m s =
      signature {} l (t.classRenaming.apply c) (t.showMethod (t.classRenaming.apply c) m)
        (s.mapNames t.classRenaming.apply) := by
  have hreturn (q) :
      type t q s.returnType = type {} q (s.returnType.mapNames t.classRenaming.apply) :=
    type_eq_mapNames h (fun x hx => hs x (Signature.mem_classNames_of_returnType hx)) q
  have harguments :
      arguments t l s.parameters =
        arguments {} l (s.parameters.map (JavaType.mapNames t.classRenaming.apply)) :=
    arguments_eq_mapNames h
      (fun u hu x hx => hs x (Signature.mem_classNames_of_parameter hu hx)) l
  have hclass := h.showClass_eq hc
  -- the methods are filed under the real name, which the class has on the other side
  have howner : (t.realClass? c).getD c = t.classRenaming.apply c := by
    rw [Table.realClass?_of_internal hc, Renaming.apply]
  simp only [signature, hreturn, harguments, hclass, howner, Table.showMethod_empty,
    Signature.mapNames]

/-- **Showing with a table is renaming first and showing without one**, for every table that can
come up and every layout, if names are in internal form and the new ones fit in the descriptor.
The text of the descriptor can then be renamed and decoded, and what it describes is shown without
a table, under the real names of class and method, as the signature was with the table. -/
theorem signature_of_renamed_descriptor (ht : t.Reachable) {c d : Text} {s : Signature}
    (hd : Descriptor.decode d = .ok s) (hc : '.' ∉ c) (hs : ∀ x ∈ s.classNames, '.' ∉ x)
    (hf : t.classRenaming.Fits s) :
    ∃ d' s', t.classRenaming.descriptor d = .ok d' ∧ Descriptor.decode d' = .ok s' ∧
      ∀ m l, signature t l c m s =
        signature {} l (t.classRenaming.apply c) (t.showMethod (t.classRenaming.apply c) m) s' := by
  obtain ⟨rfl, hw⟩ := Descriptor.decode_eq_ok_iff.1 hd
  refine ⟨_, s.mapNames t.classRenaming.apply,
    Renaming.descriptor_eq_ok _ (Renaming.scan_signature _ hw), ?_, fun m l => ?_⟩
  · exact Descriptor.decode_eq_ok_iff.2 ⟨rfl, hf.wellFormed hw⟩
  · exact signature_eq_mapNames ht.wellFormed hc hs l m

/-- A class in another package, the method it is known for, and a second class. -/
def moved : Table.Session :=
  .after [.addClass "x.Service".toList "a.b".toList, .addMethod ['m'] "void run(int)".toList,
    .addClass "x/Item".toList ['c']]

theorem signature_of_moved_descriptor :
    Descriptor.decode "(I[Lc;)La/b;".toList =
      .ok ⟨[.primitive .int, .array (.object ['c'])], .object "a/b".toList⟩ ∧
    moved.table.classRenaming.descriptor "(I[Lc;)La/b;".toList =
      .ok "(I[Lx/Item;)Lx/Service;".toList ∧
    ∃ s', Descriptor.decode "(I[Lx/Item;)Lx/Service;".toList = .ok s' ∧
      ∀ l, signature moved.table l "a/b".toList ['m']
          ⟨[.primitive .int, .array (.object ['c'])], .object "a/b".toList⟩ =
        signature {} l "x/Service".toList "run".toList s' := by
  have ht : moved.table.Reachable := ⟨moved, Table.Session.Reachable.new.run _, rfl⟩
  have hd : Descriptor.decode "(I[Lc;)La/b;".toList =
      .ok ⟨[.primitive .int, .array (.object ['c'])], .object "a/b".toList⟩ :=
    Descriptor.decode_eq_ok_iff.2 ⟨by decide, by decide⟩
  obtain ⟨d', s', hd', hs', hl⟩ := signature_of_renamed_descriptor ht (c := "a/b".toList) hd
    (by decide) (by decide) (by decide)
  have hrenamed : moved.table.classRenaming.descriptor "(I[Lc;)La/b;".toList =
      .ok "(I[Lx/Item;)Lx/Service;".toList := Renaming.descriptor_eq_ok _ (by decide)
  obtain rfl : "(I[Lx/Item;)Lx/Service;".toList = d' := Except.ok.inj (hrenamed.symm.trans hd')
  have hc : moved.table.classRenaming.apply "a/b".toList = "x/Service".toList := by decide
  have hm : moved.table.showMethod "x/Service".toList ['m'] = "run".toList := by decide
  refine ⟨hd, hrenamed, s', hs', fun l => ?_⟩
  rw [hl, hc, hm]

end Render

end Unmask
