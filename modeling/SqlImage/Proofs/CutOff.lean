/-
This file says which cells an overwritten place cuts off: those that were visited by
way of the place and are not visited any more. A pointer or a sequence that is
exchanged cuts off all that it led to, a smaller count cuts off the elements that do
not count any more, and a statement that is no longer tagged as a select loses its
clauses. What is visited afterwards and what was cut off are together what was visited
before and what is new.
-/

import Mathlib.Data.List.Flatten
import SqlImage.Proofs.Poke

namespace SqlImage.Image

/-! ### What is cut off -/

/-- Whether a new value for the tag of a statement stands for a select. -/
def Patch.isSelectTag : Patch → Bool
  | .integer value => Routine.ofOrdinal (UInt32.ofNat value.toNat) = .select
  | _ => false

namespace Heap

/-- The cells that are visited by way of a slot. -/
def behind (heap : Heap) (type : FieldType) (slot : Slot) : List Address :=
  ((walkSlot heap (heap.walkRecord heap.blocks.size) type slot).getD []).map Prod.fst

/-- The cells that are visited by way of some fields. -/
def behindFields (heap : Heap) (fields : List Field) (slots : List Slot) : List Address :=
  (fields.zip slots).flatMap fun entry => heap.behind entry.1.type entry.2

/-- The cells that are not visited any more if an array counts fewer elements: those behind the
elements that do not count any more, and the array itself if none does. -/
def behindElements (heap : Heap) (target : Target) (address : Address) (count fewer : Nat) :
    List Address :=
  (((heap.array? address count).getD []).drop fewer).flatMap
      (fun pointer => heap.behind (.pointer target) (.pointer pointer)) ++
    if fewer = 0 ∧ count ≠ 0 then [address] else []

/-- The cells that a new value in the place of a slot cuts off. -/
def displaced (heap : Heap) (patch : Patch) : FieldType → Slot → List Address
  | .sequence target, .sequence (.array address) count =>
    match patch with
    | .integer value => heap.behindElements target address count value.toNat
    | _ => heap.behind (.sequence target) (.sequence (.array address) count)
  | type, slot => heap.behind type slot

/-- The cells that overwriting what a path leads to from a slot cuts off. A statement that is no
longer tagged as a select loses all fields but those that every statement begins with. -/
def cutOffFrom (heap : Heap) (patch : Patch) : FieldType → Slot → List Key → List Address
  | type, slot, [] => heap.displaced patch type slot
  | .pointer (.node kind), .pointer (some address), .field name :: rest =>
    match heap.record? kind address with
    | none => []
    | some (seen, slots) =>
      match seen.field? name with
      | none => []
      | some (position, field) =>
        match slots[position]? with
        | none => []
        | some slot =>
          heap.cutOffFrom patch field.type slot rest ++
            if kind = .statement ∧ seen = .select ∧ position = 0 ∧ patch.isSelectTag = false then
              heap.behindFields (seen.fields.drop Kind.statementFields.length)
                (slots.drop Kind.statementFields.length)
            else []
  | .sequence target, .sequence (.array address) count, .element position :: rest =>
    match heap.array? address count with
    | none => []
    | some pointers =>
      match pointers[position]? with
      | none => []
      | some pointer => heap.cutOffFrom patch (.pointer target) (.pointer pointer) rest
  | _, _, _ => []

/-- The cells that overwriting a place of an image cuts off. -/
def cutOff (heap : Heap) (root : Address) (path : List Key) (patch : Patch) : List Address :=
  heap.cutOffFrom patch .image (.pointer (some root)) path

end Heap

/-! ### What is visited -/

namespace Figure

variable {Mark : Type}

theorem elementsVisited_eq_flatMap (target : Target) (count : Nat) (figures : List (Figure Mark)) :
    elementsVisited target count figures =
      (figures.take count).flatMap (visited (.pointer target)) := by
  induction figures generalizing count with
  | nil => cases count <;> rfl
  | cons head tail inductionHypothesis =>
    cases count with
    | zero => rfl
    | succ count =>
      rw [elementsVisited, inductionHypothesis, List.take_succ_cons, List.flatMap_cons]

/-- An exchange in a list that is visited part by part is an exchange in the whole. -/
theorem fieldsVisited_set {fields : List Field} {figures : List (Figure Mark)} {position : Nat}
    {field : Field} {old new : Figure Mark} {lost fresh : List Mark}
    (named : fields[position]? = some field) (there : figures[position]? = some old)
    (exchanged : (new.visited field.type ++ lost).Perm (old.visited field.type ++ fresh)) :
    (fieldsVisited fields (figures.set position new) ++ lost).Perm
      (fieldsVisited fields figures ++ fresh) := by
  induction figures generalizing fields position with
  | nil => cases there
  | cons head tail inductionHypothesis =>
    cases fields with
    | nil => cases named
    | cons first others =>
      cases position with
      | zero =>
        cases named
        cases there
        exact exchanged_append exchanged _
      | succ position =>
        have namedBelow : others[position]? = some field := named
        rw [List.set_cons_succ, fieldsVisited, fieldsVisited, List.append_assoc, List.append_assoc]
        exact (inductionHypothesis namedBelow there).append_left _

theorem fieldsVisited_append (first second : List Field) (figures : List (Figure Mark)) :
    fieldsVisited (first ++ second) figures =
      fieldsVisited first figures ++ fieldsVisited second (figures.drop first.length) := by
  induction first generalizing figures with
  | nil => cases figures <;> cases second <;> rfl
  | cons field fields inductionHypothesis =>
    cases figures with
    | nil => cases second <;> rfl
    | cons head tail =>
      rw [List.cons_append, fieldsVisited, fieldsVisited, inductionHypothesis, List.append_assoc,
        List.length_cons, List.drop_succ_cons]

theorem elementsVisited_set {target : Target} {figures : List (Figure Mark)}
    {position count : Nat} {old new : Figure Mark} {lost fresh : List Mark}
    (counted : position < count) (there : figures[position]? = some old)
    (exchanged : (new.visited (.pointer target) ++ lost).Perm
      (old.visited (.pointer target) ++ fresh)) :
    (elementsVisited target count (figures.set position new) ++ lost).Perm
      (elementsVisited target count figures ++ fresh) := by
  induction figures generalizing count position with
  | nil => cases there
  | cons head tail inductionHypothesis =>
    obtain ⟨less, rfl⟩ : ∃ less, count = less + 1 := ⟨count - 1, by omega⟩
    cases position with
    | zero =>
      cases there
      exact exchanged_append exchanged _
    | succ position =>
      rw [List.set_cons_succ, elementsVisited, elementsVisited, List.append_assoc,
        List.append_assoc]
      exact (inductionHypothesis (Nat.lt_of_succ_lt_succ counted) there).append_left _

/-- What is overwritten in the place of a tag is a tag. -/
theorem Overwrites.eq_tag {fresh : Mark} {patch : Patch} {path : List Key} {old new : Figure Mark}
    (overwrites : Overwrites fresh patch path .tag old new) (fits : old.Fits .tag) :
    ∃ value, patch = .integer value ∧ new = .leaf (.tag (UInt32.ofNat value.toNat)) := by
  cases overwrites with
  | here patched =>
    cases patches_of_ok patched with
    | count inside => exact fits.elim
    | leaf plain done =>
      cases patch with
      | integer value =>
        simp only [patchedSlot] at done
        split at done <;> cases done
        exact ⟨value, rfl, rfl⟩
      | _ => cases done

/-- A statement that is seen as a select is one afterwards if its tag still stands for one. -/
theorem seenAs_set_tag {fresh : Mark} {patch : Patch} {name : String} {rest : List Key}
    {fields : List (Figure Mark)} {field : Field} {old new : Figure Mark}
    (named : Kind.select.field? name = some (0, field)) (there : fields[0]? = some old)
    (below : Overwrites fresh patch rest field.type old new) (fits : old.Fits field.type) :
    seenAs .statement (fields.set 0 new) =
      if patch.isSelectTag then Kind.select else Kind.statement := by
  cases field?_getElem? named
  obtain ⟨value, rfl, rfl⟩ := below.eq_tag fits
  cases fields with
  | nil => cases there
  | cons head tail =>
    simp only [List.set_cons_zero, seenAs, Kind.seen, Patch.isSelectTag, decide_eq_true_eq]
    cases Routine.ofOrdinal (UInt32.ofNat value.toNat) <;> rfl

/-- A record is seen as before after a place behind one of its fields was overwritten, and then the
place was not the tag of a select that it has no more, or it is a statement that was seen as a
select before and is not now. -/
theorem seenAs_overwritten {fresh : Mark} {patch : Patch} {name : String} {rest : List Key}
    {kind : Kind} {fields : List (Figure Mark)} {position : Nat} {field : Field}
    {old new : Figure Mark}
    (named : (seenAs kind fields).field? name = some (position, field))
    (there : fields[position]? = some old)
    (below : Overwrites fresh patch rest field.type old new) (fits : old.Fits field.type)
    (kept : wouldPromote (seenAs kind fields) position new.bare = false) :
    seenAs kind (fields.set position new) = seenAs kind fields ∧
        ¬(kind = .statement ∧ seenAs kind fields = .select ∧ position = 0 ∧
          patch.isSelectTag = false) ∨
      kind = .statement ∧ position = 0 ∧ seenAs kind fields = .select ∧
        seenAs kind (fields.set position new) = .statement ∧ patch.isSelectTag = false := by
  rcases seenAs_set there kept with same | ⟨rfl, rfl, before, after⟩
  · refine .inl ⟨same, ?_⟩
    rintro ⟨rfl, isSelect, rfl, other⟩
    have after := seenAs_set_tag (isSelect ▸ named) there below fits
    rw [same, isSelect, other] at after
    cases after
  · refine .inr ⟨rfl, rfl, before, after, ?_⟩
    have tagged := seenAs_set_tag (before ▸ named) there below fits
    rw [after] at tagged
    cases isSelect : patch.isSelectTag
    · rfl
    · rw [isSelect] at tagged
      cases tagged

end Figure

namespace Heap

variable {heap : Heap}

theorem DepictsAll.drop {figures : List (Figure Address)} (depicts : heap.DepictsAll figures)
    (count : Nat) : heap.DepictsAll (figures.drop count) :=
  depictsAll_iff.mpr fun figure member =>
    depictsAll_iff.mp depicts figure (List.mem_of_mem_drop member)

/-- What is visited by way of a slot is what is visited of its figure. -/
theorem Depicts.behind {figure : Figure Address} {type : FieldType} (depicts : heap.Depicts figure)
    (fits : figure.Fits type) (distinct : figure.marks.Nodup) :
    (heap.behind type figure.slot).Perm (figure.visited type) := by
  obtain ⟨walked, found, listed⟩ := figure.walk type depicts fits (depicts.length_le distinct)
  rw [Heap.behind, found, Option.getD_some]
  exact listed

theorem DepictsAll.behindFields {figures : List (Figure Address)} {fields : List Field}
    (depicts : heap.DepictsAll figures) (fit : Figure.FieldsFit fields figures)
    (distinct : (Figure.marksAll figures).Nodup) :
    (heap.behindFields fields (figures.map Figure.slot)).Perm
      (Figure.fieldsVisited fields figures) := by
  induction figures generalizing fields with
  | nil => cases fields <;> exact .refl _
  | cons head tail inductionHypothesis =>
    cases fields with
    | nil => exact .refl _
    | cons field fields =>
      obtain ⟨first, others⟩ := depictsAll_cons.mp depicts
      obtain ⟨firstDistinct, othersDistinct, -⟩ := List.nodup_append'.mp distinct
      exact (first.behind fit.1 firstDistinct).append
        (inductionHypothesis others fit.2 othersDistinct)

/-- An array that counts fewer elements is visited without those that do not count any more. -/
theorem Depicts.behindElements {target : Target} {address : Address} {count fewer : Nat}
    {elements : List (Figure Address)} (depicts : heap.Depicts (.array address count elements))
    (fits : (Figure.array address count elements).Fits (.sequence target))
    (distinct : (Figure.array address count elements).marks.Nodup) (less : fewer ≤ count) :
    ((Figure.array address fewer elements).visited (.sequence target) ++
        heap.behindElements target address count fewer).Perm
      ((Figure.array address count elements).visited (.sequence target)) := by
  obtain ⟨below, cell⟩ := depicts_array.mp depicts
  have array := array?_of_depicts cell ((List.length_map _).symm ▸ fits.1)
  have dropped : (((elements.take count).drop fewer).flatMap fun element =>
      heap.behind (.pointer target) (.pointer element.slot.target?)).Perm
        (((elements.take count).drop fewer).flatMap (Figure.visited (.pointer target))) := by
    refine List.Perm.flatMap_left _ fun element member => ?_
    have inside := List.mem_of_mem_take (List.mem_of_mem_drop member)
    obtain ⟨position, there⟩ := List.mem_iff_getElem?.mp inside
    have elementFits := Figure.elementsFit_iff.mp fits.2 element inside
    rw [← elementFits.slot_eq_pointer]
    exact (depictsAll_iff.mp below element inside).behind elementFits
      (Figure.nodup_of_getElem? there (List.nodup_append'.mp distinct).1)
  rw [Heap.behindElements, array, Option.getD_some, ← List.map_take, ← List.map_drop,
    List.flatMap_map, Figure.visited, Figure.visited, Figure.elementsVisited_eq_flatMap,
    Figure.elementsVisited_eq_flatMap]
  have counted : (elements.take count).flatMap (Figure.visited (.pointer target)) =
      (elements.take fewer).flatMap (Figure.visited (.pointer target)) ++
        ((elements.take count).drop fewer).flatMap (Figure.visited (.pointer target)) := by
    have front := List.take_append_drop fewer (elements.take count)
    rw [List.take_take, Nat.min_eq_left less] at front
    rw [← List.flatMap_append, front]
  rw [counted]
  by_cases none : fewer = 0
  · subst none
    rw [List.take_zero, List.flatMap_nil, if_pos rfl, List.nil_append, List.nil_append]
    refine dropped.append (.of_eq ?_)
    by_cases empty : count = 0 <;> simp [empty]
  · have some : count ≠ 0 := fun empty => none (Nat.le_zero.mp (empty ▸ less))
    rw [if_neg none, if_neg fun both => none both.1, if_neg some, List.append_nil]
    rw [List.append_assoc, List.append_assoc]
    exact (List.perm_append_comm.trans (dropped.append_right _)).append_left _

/-! ### What overwriting cuts off -/

/-- What a new value in the place of a figure cuts off. -/
theorem Depicts.displaced {fresh : Address} {type : FieldType} {old new : Figure Address}
    {patch : Patch} (depicts : heap.Depicts old) (fits : old.Fits type)
    (distinct : old.marks.Nodup) (patches : Figure.Patches fresh type patch old new) :
    (new.visited type ++ heap.displaced patch type old.slot).Perm
      (old.visited type ++ patch.marks fresh) := by
  have behind := depicts.behind fits distinct
  cases patches with
  | text value => exact List.perm_append_comm.trans (behind.append_right _)
  | @count type mark count fewer elements inside =>
    obtain ⟨target, rfl, -⟩ := Figure.fits_array.mp fits
    show List.Perm _ (_ ++ [])
    rw [List.append_nil]
    exact depicts.behindElements fits distinct inside
  | @leaf type patch old slot memory plain done =>
    -- Only a sequence that leads to no array could have been counted down.
    have all : heap.displaced patch type old.slot = heap.behind type old.slot := by
      cases old with
      | array address count elements =>
        obtain ⟨target, rfl, -⟩ := Figure.fits_array.mp fits
        cases patch <;> first | rfl | cases done
      | leaf slot =>
        rw [Figure.Fits] at fits
        unfold Figure.leafFits at fits
        split at fits <;> first | rfl | cases fits
      | _ => cases type <;> rfl
    rw [all, plain, List.append_nil]
    exact behind

end Heap

namespace Figure

variable {heap : Heap} {fresh : Address} {patch : Patch}

theorem eq_select_of_mayBeSeen {actual : Kind} (mayBe : actual.mayBeSeen .select = true) :
    actual = .select := by
  cases actual <;> first | rfl | cases mayBe

/-- A statement that is no longer seen as a select is visited without its clauses. -/
theorem visited_demoted {mark : Address} {actual : Kind} {fields : List (Figure Address)}
    {position : Nat} {field : Field} {old new : Figure Address} {lost : List Address}
    (depicts : heap.DepictsAll fields) (fit : FieldsFit Kind.select.fields fields)
    (distinct : (marksAll fields).Nodup) (named : Kind.statementFields[position]? = some field)
    (there : fields[position]? = some old) (before : seenAs .statement fields = .select)
    (after : seenAs .statement (fields.set position new) = .statement)
    (exchanged : (new.visited field.type ++ lost).Perm
      (old.visited field.type ++ patch.marks fresh)) :
    ((record mark actual (fields.set position new)).visited (.pointer (.node .statement)) ++
        (lost ++ heap.behindFields (Kind.select.fields.drop Kind.statementFields.length)
          ((fields.map slot).drop Kind.statementFields.length))).Perm
      ((record mark actual fields).visited (.pointer (.node .statement)) ++
        patch.marks fresh) := by
  let clauses := Kind.select.fields.drop Kind.statementFields.length
  let others := fields.drop Kind.statementFields.length
  have below : (heap.behindFields clauses (others.map slot)).Perm (fieldsVisited clauses others) :=
    (depicts.drop _).behindFields
      (fieldsFit_iff.mpr (List.forall₂_drop _ (fieldsFit_iff.mp fit)))
      (by
        rw [marksAll_eq_flatMap] at distinct ⊢
        exact distinct.sublist ((List.drop_sublist _ _).flatMap _))
  have whole : fieldsVisited Kind.select.fields fields =
      fieldsVisited Kind.statementFields fields ++ fieldsVisited clauses others :=
    fieldsVisited_append Kind.statementFields clauses fields
  have front := exchanged_append (fieldsVisited_set named there exchanged)
    (fieldsVisited clauses others ++ [mark])
  rw [visited, visited, after, before, whole, ← List.map_drop, List.append_assoc _ _ [mark]]
  refine .trans ?_ front
  rw [List.append_assoc, List.append_assoc]
  refine List.Perm.append_left _ ?_
  rw [← List.append_assoc, List.append_assoc _ [mark]]
  exact List.perm_append_comm.trans (below.append_right _)

/-- What is visited after a place was overwritten and what was cut off are together what was visited
before and what is new. -/
theorem Overwrites.visited {path : List Key} {type : FieldType} {old new : Figure Address}
    (overwrites : Overwrites fresh patch path type old new) (depicts : heap.Depicts old)
    (fits : old.Fits type) (distinct : old.marks.Nodup) :
    (new.visited type ++ heap.cutOffFrom patch type old.slot path).Perm
      (old.visited type ++ patch.marks fresh) := by
  induction overwrites with
  | @here type old new patched =>
    have same : heap.cutOffFrom patch type old.slot [] = heap.displaced patch type old.slot := by
      unfold Heap.cutOffFrom
      rfl
    rw [same]
    exact depicts.displaced fits distinct (patches_of_ok patched)
  | @field name rest kind actual mark fields position field old new named there below kept
      inductionHypothesis =>
    obtain ⟨mayBe, fit⟩ := fits
    obtain ⟨fieldsDepicted, cell⟩ := Heap.depicts_record.mp depicts
    obtain ⟨_, sameThere, oldFits⟩ := fit.exists_of_seen mayBe (field?_getElem? named)
    cases there.symm.trans sameThere
    have belowDistinct := (List.nodup_append'.mp distinct).1
    have exchanged := inductionHypothesis
      (Heap.depictsAll_iff.mp fieldsDepicted old (List.mem_of_getElem? there)) oldFits
      (nodup_of_getElem? there belowDistinct)
    simp only [slot_record, Heap.cutOffFrom, Heap.record?_of_depicts cell mayBe, named,
      List.getElem?_map, there, Option.map_some]
    rcases seenAs_overwritten named there below oldFits kept with
      ⟨same, keeps⟩ | ⟨rfl, rfl, before, after, other⟩
    · rw [if_neg keeps, List.append_nil, Figure.visited, Figure.visited, same]
      exact exchanged_append (fieldsVisited_set (field?_getElem? named) there exchanged) _
    · rw [before] at named mayBe
      cases eq_select_of_mayBeSeen mayBe
      rw [if_pos ⟨rfl, before, rfl, other⟩, before]
      exact visited_demoted fieldsDepicted fit belowDistinct (field?_getElem? named) there before
        after exchanged
  | @element position count rest target mark elements old new counted there below
      inductionHypothesis =>
    obtain ⟨inside, fit⟩ := fits
    obtain ⟨elementsDepicted, cell⟩ := Heap.depicts_array.mp depicts
    have member := List.mem_of_getElem? there
    have oldFits := elementsFit_iff.mp fit old member
    have array := Heap.array?_of_depicts cell ((List.length_map _).symm ▸ inside)
    have exchanged := inductionHypothesis (Heap.depictsAll_iff.mp elementsDepicted old member)
      oldFits (nodup_of_getElem? there (List.nodup_append'.mp distinct).1)
    rw [oldFits.slot_eq_pointer] at exchanged
    simp only [slot_array, Heap.cutOffFrom, array, ← List.map_take, List.getElem?_map,
      List.getElem?_take_of_lt counted, there, Option.map_some]
    exact exchanged_append (elementsVisited_set counted there exchanged) _

end Figure

end SqlImage.Image
