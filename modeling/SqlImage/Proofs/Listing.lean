/-
This file says what the walk over a content that memory holds lists: every cell of
the content once, as what it was made as. The fields of a record are given back in
an order of their own, and fields that lead nowhere are not listed there at all. So
the walk is first taken through all fields in their order and then rearranged,
which is where a field left out or given back twice would show.
-/

import SqlImage.Proofs.Store

namespace SqlImage.Image

/-! ### The fields that are given back -/

/-- Whether a field leads to something. -/
def FieldType.owns : FieldType → Bool
  | .pointer _ => true
  | .sequence _ => true
  | _ => false

namespace Kind

/-- No field is given back twice. -/
theorem releasedFields_nodup (kind : Kind) : (kind.releasedFields.map Prod.fst).Nodup := by
  cases kind <;> decide

theorem getElem?_of_mem_releasedFields (kind : Kind) :
    ∀ place ∈ kind.releasedFields, kind.fields[place.1]? = some place.2 := by
  cases kind <;> decide

/-- No field that leads to something is left out. -/
theorem mem_releasedFields (kind : Kind) : ∀ place ∈ kind.fields.zipIdx,
    place.1.type.owns = true → place.2 ∈ kind.releasedFields.map Prod.fst := by
  cases kind <;> decide

end Kind

/-- A slot of a field that leads nowhere has no cells behind it. -/
theorem walkSlot_of_not_owns {heap : Heap}
    {walkRecord : Kind → Address → Option (List (Address × Layout))} {type : FieldType}
    (leaf : type.owns = false) (slot : Slot) : walkSlot heap walkRecord type slot = some [] := by
  cases type <;> first | rfl | cases leaf

/-! ### Rearranging the fields -/

/-- Parts at some positions, if nothing is missed at the others, are all parts in another order. -/
theorem flatMap_getD_perm_flatten {α : Type} (parts : List (List α)) (positions : List Nat)
    (distinct : positions.Nodup) (inside : ∀ position ∈ positions, position < parts.length)
    (missed : ∀ position < parts.length, position ∉ positions → parts.getD position [] = []) :
    (positions.flatMap (parts.getD · [])).Perm parts.flatten := by
  have inOrder : (List.range parts.length).flatMap (parts.getD · []) = parts.flatten := by
    rw [List.flatMap_def]
    refine congrArg List.flatten (List.ext_getElem (by simp) fun position bound bound' => ?_)
    simp [bound']
  have missing : ((List.range parts.length).filter (· ∉ positions)).flatMap (parts.getD · []) =
      [] := by
    refine List.flatMap_eq_nil_iff.mpr fun position member => ?_
    obtain ⟨below, absent⟩ := List.mem_filter.mp member
    exact missed position (List.mem_range.mp below) (of_decide_eq_true absent)
  have all : (positions ++ (List.range parts.length).filter (· ∉ positions)).Perm
      (List.range parts.length) := by
    refine (List.perm_ext_iff_of_nodup ?_ List.nodup_range).mpr fun position => ?_
    · refine List.nodup_append'.mpr ⟨distinct, List.nodup_range.filter _, ?_⟩
      intro position member other
      exact of_decide_eq_true (List.mem_filter.mp other).2 member
    · simp only [List.mem_append, List.mem_filter, List.mem_range, decide_eq_true_eq]
      by_cases member : position ∈ positions
      · simp [member, inside position member]
      · simp [member]
  rw [← inOrder]
  have rearranged := all.flatMap_right (parts.getD · [])
  rwa [List.flatMap_append, missing, List.append_nil] at rearranged

section Parts

variable (heap : Heap) (walkRecord : Kind → Address → Option (List (Address × Layout)))

/-- The cells behind each field of a record, in the order of the fields. -/
def walkParts : List Field → List Slot → Option (List (List (Address × Layout)))
  | field :: fields, slot :: slots => do
    let first ← walkSlot heap walkRecord field.type slot
    return first :: (← walkParts fields slots)
  | _, _ => some []

variable {heap walkRecord}

theorem walkParts_length {fields : List Field} {slots : List Slot}
    {parts : List (List (Address × Layout))} (enough : fields.length ≤ slots.length)
    (found : walkParts heap walkRecord fields slots = some parts) :
    parts.length = fields.length := by
  induction fields generalizing slots parts with
  | nil =>
    cases found
    rfl
  | cons field fields inductionHypothesis =>
    cases slots with
    | nil => exact (Nat.not_succ_le_zero _ enough).elim
    | cons slot slots =>
      simp only [walkParts, Option.bind_eq_bind, Option.bind_eq_some_iff, Option.pure_def,
        Option.some.injEq] at found
      obtain ⟨first, -, others, othersFound, rfl⟩ := found
      exact congrArg (· + 1) (inductionHypothesis (Nat.le_of_succ_le_succ enough) othersFound)

theorem walkSlot_of_walkParts {fields : List Field} {slots : List Slot}
    {parts : List (List (Address × Layout))} (enough : fields.length ≤ slots.length)
    (found : walkParts heap walkRecord fields slots = some parts) {position : Nat} {field : Field}
    (there : fields[position]? = some field) :
    ∃ slot, slots[position]? = some slot ∧
      walkSlot heap walkRecord field.type slot = some (parts.getD position []) := by
  induction fields generalizing slots parts position with
  | nil => cases there
  | cons head fields inductionHypothesis =>
    cases slots with
    | nil => exact (Nat.not_succ_le_zero _ enough).elim
    | cons slot slots =>
      simp only [walkParts, Option.bind_eq_bind, Option.bind_eq_some_iff, Option.pure_def,
        Option.some.injEq] at found
      obtain ⟨first, firstFound, others, othersFound, rfl⟩ := found
      cases position with
      | zero =>
        cases there
        exact ⟨slot, rfl, firstFound⟩
      | succ position => exact inductionHypothesis (Nat.le_of_succ_le_succ enough) othersFound there

/-- The walk through the fields that are given back comes by the cells behind all fields. -/
theorem walkFields_of_walkParts {kind : Kind} {slots : List Slot}
    {parts : List (List (Address × Layout))} (enough : kind.fields.length ≤ slots.length)
    (found : walkParts heap walkRecord kind.fields slots = some parts) :
    ∃ walked, walkFields heap walkRecord slots kind.releasedFields = some walked ∧
      walked.Perm parts.flatten := by
  have length := walkParts_length enough found
  refine ⟨(kind.releasedFields.map Prod.fst).flatMap (parts.getD · []), ?_, ?_⟩
  · have places := kind.getElem?_of_mem_releasedFields
    revert places
    induction kind.releasedFields with
    | nil =>
      intro
      rfl
    | cons place rest inductionHypothesis =>
      intro places
      obtain ⟨slot, there, walked⟩ :=
        walkSlot_of_walkParts enough found (places place List.mem_cons_self)
      have others := inductionHypothesis fun other member =>
        places other (List.mem_cons_of_mem _ member)
      simp only [walkFields, there, walked, others, Option.bind_eq_bind, Option.bind_some,
        Option.pure_def, List.map_cons, List.flatMap_cons]
  · refine flatMap_getD_perm_flatten parts _ kind.releasedFields_nodup ?_ ?_
    · intro position member
      obtain ⟨place, placeMember, rfl⟩ := List.mem_map.mp member
      have there := kind.getElem?_of_mem_releasedFields place placeMember
      exact length ▸ (List.getElem?_eq_some_iff.mp there).1
    · intro position inside missed
      have bound : position < kind.fields.length := length ▸ inside
      have there := List.getElem?_eq_getElem bound
      obtain ⟨slot, -, walked⟩ := walkSlot_of_walkParts enough found there
      have leaf : kind.fields[position].type.owns = false := by
        by_contra owns
        exact missed (kind.mem_releasedFields _ (List.mk_mem_zipIdx_iff_getElem?.mpr there)
          (Bool.not_eq_false _ ▸ owns))
      rw [walkSlot_of_not_owns leaf] at walked
      exact (Option.some.inj walked).symm

end Parts

/-! ### What is listed -/

/-- A list of cells to give back holds every address of a range once, each with the layout that the
cell there was made with. -/
structure Lists (heap : Heap) (walked : List (Address × Layout)) (start count : Nat) : Prop where
  addresses : (walked.map Prod.fst).Perm (List.range' start count)
  layouts : ∀ entry ∈ walked, (heap.cell? entry.1).map Cell.layout = some entry.2

namespace Lists

variable {heap : Heap} {first second : List (Address × Layout)} {start count more : Nat}

theorem nil (start : Nat) : Lists heap [] start 0 where
  addresses := .refl _
  layouts := by simp

theorem append (left : Lists heap first start count)
    (right : Lists heap second (start + count) more) :
    Lists heap (first ++ second) start (count + more) where
  addresses := by
    rw [List.map_append, ← List.range'_append_1]
    exact left.addresses.append right.addresses
  layouts entry member :=
    (List.mem_append.mp member).elim (left.layouts entry) (right.layouts entry)

theorem singleton {address : Address} {cell : Cell} (there : heap.cell? address = some cell) :
    Lists heap [(address, cell.layout)] address 1 where
  addresses := .refl _
  layouts entry member := by
    rw [List.mem_singleton.mp member, there]
    rfl

theorem perm (listed : Lists heap first start count) (same : second.Perm first) :
    Lists heap second start count where
  addresses := (same.map Prod.fst).trans listed.addresses
  layouts entry member := listed.layouts entry (same.mem_iff.mp member)

theorem nodup (listed : Lists heap first start count) : (first.map Prod.fst).Nodup :=
  listed.addresses.nodup_iff.mpr List.nodup_range'

theorem mem_iff (listed : Lists heap first start count) {address : Address} :
    address ∈ first.map Prod.fst ↔ start ≤ address ∧ address < start + count := by
  rw [listed.addresses.mem_iff, List.mem_range'_1]

theorem length (listed : Lists heap first start count) : first.length = count := by
  simpa only [List.length_map, List.length_range'] using listed.addresses.length_eq

end Lists

/-! ### The walk over a content -/

section Walk

variable {heap : Heap}

mutual

/-- The walk over a sound content that memory holds lists every cell of it once. -/
theorem Holds.walk {content : Content} {slot : Slot} {start : Address} {type : FieldType}
    {fuel : Nat} : Holds heap content slot start → content.Sound type → content.cells ≤ fuel →
    ∃ walked, walkSlot heap (heap.walkRecord fuel) type slot = some walked ∧
      Lists heap walked start content.cells
  | @Holds.record _ actual fields slots _ below cell, sound, enough => by
    match type, sound with
    | .pointer (.node kind), sound =>
      obtain ⟨laidOut, fieldsSound⟩ := sound
      rw [Content.cells] at enough
      obtain ⟨less, rfl⟩ : ∃ less, fuel = less + 1 := ⟨fuel - 1, by omega⟩
      have lessEnough : contentsCells fields ≤ less := by omega
      obtain ⟨parts, found, listed⟩ := below.walkParts fieldsSound lessEnough
      have enoughSlots : actual.fields.length ≤ slots.length := by
        rw [below.length, fieldsSound.length]
      obtain ⟨walked, walkFound, rearranged⟩ := walkFields_of_walkParts enoughSlots found
      refine ⟨walked ++ [(start + contentsCells fields, .record actual)], ?_, ?_⟩
      · simp only [walkSlot, walkPointer, Heap.walkRecord, below.record? laidOut cell,
          Option.bind_eq_bind, Option.bind_some, walkFound, Option.pure_def]
      · rw [Content.cells, Nat.add_comm 1]
        exact (listed.perm rearranged).append (.singleton cell)
  | @Holds.list _ head tail slots _ below cell, sound, enough => by
    match type, sound with
    | .sequence target, sound =>
      have array := Heap.array?_of_cell cell
      rw [List.length_map] at array
      have elementsEnough : contentsCells (head :: tail) ≤ fuel := by
        rw [Content.cells] at enough
        rw [contentsCells]
        omega
      obtain ⟨walked, found, listed⟩ := below.walkPointers sound elementsEnough
      have some : slots.length ≠ 0 := by simp [below.length]
      refine ⟨walked ++ [(start + contentsCells (head :: tail), .array slots.length)], ?_, ?_⟩
      · simp only [walkSlot, array, Option.bind_eq_bind, Option.bind_some, found, if_neg some,
          Option.pure_def]
      · have last := Lists.singleton cell
        rw [Cell.layout, List.length_map] at last
        have both := listed.append last
        rw [contentsCells] at both
        rwa [Content.cells, Nat.add_assoc 1, Nat.add_comm 1]
  | @Holds.text _ value _ cell, sound, _ => by
    match type, sound with
    | .pointer .text, sound =>
      refine ⟨[(start, .ofText value)], ?_, ?_⟩
      · simp only [walkSlot, walkPointer, Heap.text?, cell, Option.map_some]
      · have layout : Layout.ofText value = (Cell.text value).layout := by
          rw [Layout.ofText, sound, Cell.layout]
        exact layout ▸ .singleton cell
  | .tag _ _, _, _ => ⟨[], by cases type <;> rfl, .nil _⟩
  | .flag _ _, _, _ => ⟨[], by cases type <;> rfl, .nil _⟩
  | .place _ _, _, _ => ⟨[], by cases type <;> rfl, .nil _⟩
  | .int _ _, _, _ => ⟨[], by cases type <;> rfl, .nil _⟩
  | .size _ _, _, _ => ⟨[], by cases type <;> rfl, .nil _⟩
  | .double _ _, _, _ => ⟨[], by cases type <;> rfl, .nil _⟩
  | .absent _, _, _ => ⟨[], by cases type <;> rfl, .nil _⟩
  | .noList _, _, _ => ⟨[], by cases type <;> rfl, .nil _⟩
  | .emptyList _, _, _ => ⟨[], by cases type <;> rfl, .nil _⟩

theorem HoldsAll.walkPointers {contents : List Content} {slots : List Slot} {start : Address}
    {target : Target} {fuel : Nat} : HoldsAll heap contents slots start →
    ElementsSound target contents → contentsCells contents ≤ fuel →
    ∃ walked, walkPointers heap (heap.walkRecord fuel) target (slots.map Slot.target?) =
        some walked ∧ Lists heap walked start (contentsCells contents)
  | .nil _, _, _ => ⟨[], rfl, .nil _⟩
  | .cons first others, sound, enough => by
    rw [contentsCells] at enough
    obtain ⟨walked, found, listed⟩ := first.walk sound.1.2 (Nat.le_of_add_right_le enough)
    rw [first.slot_eq_pointer sound.1.2] at found
    simp only [walkSlot] at found
    obtain ⟨rest, restFound, restListed⟩ :=
      others.walkPointers sound.2 (Nat.le_of_add_left_le enough)
    refine ⟨walked ++ rest, ?_, listed.append restListed⟩
    simp only [List.map_cons, Image.walkPointers, found, restFound, Option.bind_eq_bind,
      Option.bind_some, Option.pure_def]

theorem HoldsAll.walkParts {contents : List Content} {slots : List Slot} {start : Address}
    {kind : Kind} {fields : List Field} {fuel : Nat} : HoldsAll heap contents slots start →
    FieldsSound kind fields contents → contentsCells contents ≤ fuel →
    ∃ parts, walkParts heap (heap.walkRecord fuel) fields slots = some parts ∧
      Lists heap parts.flatten start (contentsCells contents)
  | .nil _, sound, _ => by
    match fields, sound with
    | [], _ => exact ⟨[], rfl, .nil _⟩
  | .cons first others, sound, enough => by
    match fields, sound with
    | field :: fields, sound =>
      rw [contentsCells] at enough
      obtain ⟨walked, found, listed⟩ := first.walk sound.1.1 (Nat.le_of_add_right_le enough)
      obtain ⟨rest, restFound, restListed⟩ :=
        others.walkParts sound.2 (Nat.le_of_add_left_le enough)
      refine ⟨walked :: rest, ?_, listed.append restListed⟩
      simp only [Image.walkParts, found, restFound, Option.bind_eq_bind, Option.bind_some,
        Option.pure_def]

end

end Walk

/-- The walk over an image that was kept lists every cell of it once. -/
theorem Heap.walk_store (heap : Heap) (result : Tree.ParseResult) :
    ∃ walked, (heap.store result).2.walk (heap.store result).1 = some walked ∧
      Lists (heap.store result).2 walked heap.blocks.size result.content.cells := by
  have enough : result.content.cells ≤ (heap.store result).2.blocks.size + 1 := by
    rw [Heap.size_store]
    omega
  exact (Heap.holds_store (KeptIn.refl _)).walk result.content_sound enough

end SqlImage.Image
