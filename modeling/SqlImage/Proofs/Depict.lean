/-
This file says when memory shows a figure: every cell of the figure stands at the
address that is its mark. What is seen of a figure is then what is loaded from
memory, and the cells that are visited are those that the walk lists. Nothing that
is there besides the figure matters, so a figure is shown as long as its own cells
are left alone. An image that was just kept shows a figure with all its cells, and
each of them is visited.
-/

import SqlImage.Proofs.Figure
import SqlImage.Proofs.Listing
import Mathlib.Data.List.Perm.Subperm

namespace SqlImage.Image

/-! ### The cells of a figure -/

namespace Figure

/-- What a field with a figure holds. -/
def slot : Figure Address → Slot
  | .leaf slot => slot
  | .text address _ => .pointer (some address)
  | .record address _ _ => .pointer (some address)
  | .array address count _ => .sequence (.array address) count

@[simp] theorem slot_text (address : Address) (value : String) :
    (text address value).slot = .pointer (some address) := rfl

@[simp] theorem slot_record (address : Address) (kind : Kind) (fields : List (Figure Address)) :
    (record address kind fields).slot = .pointer (some address) := rfl

@[simp] theorem slot_array (address : Address) (count : Nat) (elements : List (Figure Address)) :
    (array address count elements).slot = .sequence (.array address) count := rfl

mutual

/-- The cells of a figure with their addresses. -/
def cells : Figure Address → List (Address × Cell)
  | .leaf _ => []
  | .text address value => [(address, .text value)]
  | .record address kind fields => cellsAll fields ++ [(address, .record kind (fields.map slot))]
  | .array address _ elements =>
    cellsAll elements ++ [(address, .array (elements.map fun element => element.slot.target?))]

/-- The cells of several figures. -/
def cellsAll : List (Figure Address) → List (Address × Cell)
  | [] => []
  | head :: tail => head.cells ++ cellsAll tail

end

mutual

theorem map_fst_cells : (figure : Figure Address) → figure.cells.map Prod.fst = figure.marks
  | .leaf _ => rfl
  | .text _ _ => rfl
  | .record _ _ fields => by
    rw [cells, marks, List.map_append, map_fst_cellsAll fields]
    rfl
  | .array _ _ elements => by
    rw [cells, marks, List.map_append, map_fst_cellsAll elements]
    rfl

theorem map_fst_cellsAll : (figures : List (Figure Address)) →
    (cellsAll figures).map Prod.fst = marksAll figures
  | [] => rfl
  | head :: tail => by
    rw [cellsAll, marksAll, List.map_append, map_fst_cells head, map_fst_cellsAll tail]

end

/-- A record is seen by its slots as it is seen by its figures. -/
theorem seen_map_slot (kind : Kind) (fields : List (Figure Address)) :
    kind.seen (fields.map slot) = seenAs kind fields := by
  cases kind <;> try rfl
  cases fields with
  | nil => rfl
  | cons head tail =>
    cases head with
    | leaf slot => cases slot <;> rfl
    | _ => rfl

/-- What a pointer leads to stands behind a pointer. -/
theorem Fits.slot_eq_pointer {figure : Figure Address} {target : Target}
    (fits : figure.Fits (.pointer target)) : figure.slot = .pointer figure.slot.target? := by
  cases figure with
  | leaf slot => cases slot <;> first | rfl | cases fits
  | array => exact fits.elim
  | _ => rfl

end Figure

/-! ### Memory that shows a figure -/

namespace Heap

/-- Memory has every cell of a figure. -/
def Depicts (heap : Heap) (figure : Figure Address) : Prop :=
  ∀ entry ∈ figure.cells, heap.cell? entry.1 = some entry.2

/-- Memory has every cell of several figures. -/
def DepictsAll (heap : Heap) (figures : List (Figure Address)) : Prop :=
  ∀ entry ∈ Figure.cellsAll figures, heap.cell? entry.1 = some entry.2

variable {heap later : Heap}

theorem depictsAll_cons {head : Figure Address} {tail : List (Figure Address)} :
    heap.DepictsAll (head :: tail) ↔ heap.Depicts head ∧ heap.DepictsAll tail :=
  List.forall_mem_append

theorem depicts_record {address : Address} {kind : Kind} {fields : List (Figure Address)} :
    heap.Depicts (.record address kind fields) ↔ heap.DepictsAll fields ∧
      heap.cell? address = some (.record kind (fields.map Figure.slot)) :=
  List.forall_mem_append.trans (and_congr_right' List.forall_mem_singleton)

theorem depicts_array {address : Address} {count : Nat} {elements : List (Figure Address)} :
    heap.Depicts (.array address count elements) ↔ heap.DepictsAll elements ∧
      heap.cell? address = some (.array (elements.map fun element => element.slot.target?)) :=
  List.forall_mem_append.trans (and_congr_right' List.forall_mem_singleton)

theorem depicts_text {address : Address} {value : String} :
    heap.Depicts (.text address value) ↔ heap.cell? address = some (.text value) :=
  List.forall_mem_singleton

theorem depictsAll_iff {figures : List (Figure Address)} :
    heap.DepictsAll figures ↔ ∀ figure ∈ figures, heap.Depicts figure := by
  induction figures with
  | nil => exact ⟨fun _ _ member => (List.not_mem_nil member).elim,
      fun _ _ member => (List.not_mem_nil member).elim⟩
  | cons head tail inductionHypothesis =>
    rw [depictsAll_cons, inductionHypothesis, List.forall_mem_cons]

/-- A figure is shown as long as its cells are as they were. -/
theorem Depicts.of_same {figure : Figure Address} (depicts : heap.Depicts figure)
    (same : ∀ address ∈ figure.marks, later.cell? address = heap.cell? address) :
    later.Depicts figure := by
  intro entry member
  rw [same entry.1 (figure.map_fst_cells ▸ List.mem_map_of_mem member)]
  exact depicts entry member

theorem DepictsAll.of_same {figures : List (Figure Address)} (depicts : heap.DepictsAll figures)
    (same : ∀ address ∈ Figure.marksAll figures, later.cell? address = heap.cell? address) :
    later.DepictsAll figures := by
  intro entry member
  rw [same entry.1 (Figure.map_fst_cellsAll figures ▸ List.mem_map_of_mem member)]
  exact depicts entry member

/-- The cells of a figure that memory shows are there. -/
theorem Depicts.lt_size {figure : Figure Address} (depicts : heap.Depicts figure) :
    ∀ address ∈ figure.marks, address < heap.blocks.size := by
  intro address member
  rw [← figure.map_fst_cells] at member
  obtain ⟨entry, entryMember, rfl⟩ := List.mem_map.mp member
  exact lt_size_of_cell? (depicts entry entryMember)

theorem DepictsAll.lt_size {figures : List (Figure Address)} (depicts : heap.DepictsAll figures) :
    ∀ address ∈ Figure.marksAll figures, address < heap.blocks.size := by
  intro address member
  rw [← Figure.map_fst_cellsAll] at member
  obtain ⟨entry, entryMember, rfl⟩ := List.mem_map.mp member
  exact lt_size_of_cell? (depicts entry entryMember)

/-- A figure has no more cells than memory has addresses. -/
theorem Depicts.length_le {figure : Figure Address} (depicts : heap.Depicts figure)
    (distinct : figure.marks.Nodup) : figure.marks.length ≤ heap.blocks.size := by
  have inside : figure.marks ⊆ List.range heap.blocks.size := fun address member =>
    List.mem_range.mpr (depicts.lt_size address member)
  exact (List.subperm_of_subset distinct inside).length_le.trans_eq List.length_range

theorem record?_of_depicts {address : Address} {kind actual : Kind}
    {fields : List (Figure Address)}
    (cell : heap.cell? address = some (.record actual (fields.map Figure.slot)))
    (mayBe : actual.mayBeSeen (Figure.seenAs kind fields) = true) :
    heap.record? kind address = some (Figure.seenAs kind fields, fields.map Figure.slot) := by
  simp only [record?, cell, Figure.seen_map_slot, mayBe, if_true]

theorem array?_of_depicts {address : Address} {pointers : List (Option Address)} {count : Nat}
    (cell : heap.cell? address = some (.array pointers)) (inside : count ≤ pointers.length) :
    heap.array? address count = some (pointers.take count) := by
  unfold array?
  split
  · rename_i none
    rw [none, List.take_zero]
  · simp only [cell, inside, if_true]

end Heap

section Depicted

variable {heap : Heap}

/-! ### Loading -/

mutual

/-- What is seen of a figure is what is loaded from memory that shows it. -/
theorem Figure.load {fuel : Nat} : (figure : Figure Address) → (type : FieldType) →
    heap.Depicts figure → figure.Fits type → figure.marks.length ≤ fuel →
    loadSlot heap (heap.loadRecord fuel) type figure.slot = some (figure.content type)
  | .leaf slot, type, _, fits, _ => by
    rw [Figure.Fits] at fits
    unfold leafFits at fits
    split at fits <;> first | rfl | cases fits
  | .text _ value, type, depicts, fits, _ => by
    obtain ⟨rfl, -⟩ := Figure.fits_text.mp fits
    simp only [slot_text, loadSlot, loadPointer, Heap.text?, Heap.depicts_text.mp depicts,
      Option.map_some, content]
  | .record address actual fields, type, depicts, fits, enough => by
    obtain ⟨kind, rfl, mayBe, fit⟩ := Figure.fits_record.mp fits
    obtain ⟨below, cell⟩ := Heap.depicts_record.mp depicts
    rw [marks, List.length_append, List.length_singleton] at enough
    obtain ⟨less, rfl⟩ : ∃ less, fuel = less + 1 := ⟨fuel - 1, by omega⟩
    obtain ⟨unseen, prefixed⟩ := fields_of_mayBeSeen mayBe
    simp only [slot_record, loadSlot, loadPointer, Heap.loadRecord,
      Heap.record?_of_depicts cell mayBe, Option.bind_eq_bind, Option.bind_some, content,
      loadFields fields unseen below (prefixed ▸ fit) (Nat.le_of_succ_le_succ enough),
      Option.pure_def]
  | .array address count elements, type, depicts, fits, enough => by
    obtain ⟨target, rfl, inside, fit⟩ := Figure.fits_array.mp fits
    obtain ⟨below, cell⟩ := Heap.depicts_array.mp depicts
    rw [marks, List.length_append, List.length_singleton] at enough
    have array := Heap.array?_of_depicts cell ((List.length_map _).symm ▸ inside)
    rw [← List.map_take] at array
    simp only [slot_array, loadSlot, array, Option.bind_eq_bind, Option.bind_some, content,
      loadElements elements below fit (Nat.le_of_succ_le enough), Option.pure_def]

theorem Figure.loadFields {fuel : Nat} : (figures : List (Figure Address)) →
    {fields : List Field} → (unseen : List Field) → heap.DepictsAll figures →
    FieldsFit (fields ++ unseen) figures → (marksAll figures).length ≤ fuel →
    loadSlots heap (heap.loadRecord fuel) fields (figures.map slot) =
      some (fieldsContents fields figures)
  | [], fields, unseen, _, fit, _ => by
    cases fields with
    | nil => rfl
    | cons field fields => exact fit.elim
  | head :: tail, fields, unseen, depicts, fit, enough => by
    cases fields with
    | nil => rfl
    | cons field fields =>
      obtain ⟨first, others⟩ := Heap.depictsAll_cons.mp depicts
      rw [marksAll, List.length_append] at enough
      simp only [List.map_cons, loadSlots, Option.bind_eq_bind, Option.bind_some, fieldsContents,
        Figure.load head _ first fit.1 (Nat.le_of_add_right_le enough),
        loadFields tail unseen others fit.2 (Nat.le_of_add_left_le enough), Option.pure_def]

theorem Figure.loadElements {fuel : Nat} {target : Target} : (figures : List (Figure Address)) →
    {count : Nat} → heap.DepictsAll figures → ElementsFit target figures →
    (marksAll figures).length ≤ fuel →
    ((figures.take count).map fun element => element.slot.target?).mapM
      (loadPointer heap (heap.loadRecord fuel) target) =
      some (elementsContents target count figures)
  | [], count, _, _, _ => by cases count <;> rfl
  | head :: tail, count, depicts, fit, enough => by
    cases count with
    | zero => rfl
    | succ count =>
      obtain ⟨first, others⟩ := Heap.depictsAll_cons.mp depicts
      rw [marksAll, List.length_append] at enough
      have loaded := Figure.load head _ first fit.1 (Nat.le_of_add_right_le enough)
      rw [fit.1.slot_eq_pointer] at loaded
      simp only [loadSlot] at loaded
      simp only [List.take_succ_cons, List.map_cons, List.mapM_cons, loaded, elementsContents,
        loadElements tail others fit.2 (Nat.le_of_add_left_le enough), Option.bind_eq_bind,
        Option.bind_some, Option.pure_def]

end

/-! ### Walking -/

mutual

/-- The cells of a figure that are visited are those that the walk lists. -/
theorem Figure.walk {fuel : Nat} : (figure : Figure Address) → (type : FieldType) →
    heap.Depicts figure → figure.Fits type → figure.marks.length ≤ fuel →
    ∃ walked, walkSlot heap (heap.walkRecord fuel) type figure.slot = some walked ∧
      (walked.map Prod.fst).Perm (figure.visited type)
  | .leaf slot, type, _, fits, _ => by
    refine ⟨[], ?_, by simp only [List.map_nil, visited, List.Perm.refl]⟩
    rw [Figure.Fits] at fits
    unfold leafFits at fits
    split at fits <;> first | rfl | cases fits
  | .text address value, type, depicts, fits, _ => by
    obtain ⟨rfl, -⟩ := Figure.fits_text.mp fits
    refine ⟨[(address, .ofText value)], ?_, .refl _⟩
    simp only [slot_text, walkSlot, walkPointer, Heap.text?, Heap.depicts_text.mp depicts,
      Option.map_some]
  | .record address actual fields, type, depicts, fits, enough => by
    obtain ⟨kind, rfl, mayBe, fit⟩ := Figure.fits_record.mp fits
    obtain ⟨below, cell⟩ := Heap.depicts_record.mp depicts
    rw [marks, List.length_append, List.length_singleton] at enough
    obtain ⟨less, rfl⟩ : ∃ less, fuel = less + 1 := ⟨fuel - 1, by omega⟩
    obtain ⟨unseen, prefixed⟩ := fields_of_mayBeSeen mayBe
    obtain ⟨parts, found, listed⟩ :=
      walkParts fields unseen below (prefixed ▸ fit) (Nat.le_of_succ_le_succ enough)
    have enoughSlots : (seenAs kind fields).fields.length ≤ (fields.map slot).length := by
      rw [List.length_map, fit.length, prefixed, List.length_append]
      exact Nat.le_add_right _ _
    obtain ⟨walked, walkFound, rearranged⟩ := walkFields_of_walkParts enoughSlots found
    refine ⟨walked ++ [(address, .record (seenAs kind fields))], ?_, ?_⟩
    · simp only [slot_record, walkSlot, walkPointer, Heap.walkRecord,
        Heap.record?_of_depicts cell mayBe, Option.bind_eq_bind, Option.bind_some, walkFound,
        Option.pure_def]
    · rw [List.map_append, visited]
      exact ((rearranged.map Prod.fst).trans listed).append_right _
  | .array address count elements, type, depicts, fits, enough => by
    obtain ⟨target, rfl, inside, fit⟩ := Figure.fits_array.mp fits
    obtain ⟨below, cell⟩ := Heap.depicts_array.mp depicts
    rw [marks, List.length_append, List.length_singleton] at enough
    have array := Heap.array?_of_depicts cell ((List.length_map _).symm ▸ inside)
    rw [← List.map_take] at array
    obtain ⟨walked, found, listed⟩ :=
      walkElements elements count below fit (Nat.le_of_succ_le enough)
    refine ⟨walked ++ if count = 0 then [] else [(address, .array count)], ?_, ?_⟩
    · simp only [slot_array, walkSlot, array, Option.bind_eq_bind, Option.bind_some, found,
        Option.pure_def]
    · rw [List.map_append, visited, apply_ite (List.map Prod.fst)]
      exact listed.append_right _

theorem Figure.walkParts {fuel : Nat} : (figures : List (Figure Address)) →
    {fields : List Field} → (unseen : List Field) → heap.DepictsAll figures →
    FieldsFit (fields ++ unseen) figures → (marksAll figures).length ≤ fuel →
    ∃ parts, Image.walkParts heap (heap.walkRecord fuel) fields (figures.map slot) = some parts ∧
      (parts.flatten.map Prod.fst).Perm (fieldsVisited fields figures)
  | [], fields, unseen, _, fit, _ => by
    cases fields with
    | nil => exact ⟨[], rfl, .refl _⟩
    | cons field fields => exact fit.elim
  | head :: tail, fields, unseen, depicts, fit, enough => by
    cases fields with
    | nil => exact ⟨[], rfl, .refl _⟩
    | cons field fields =>
      obtain ⟨first, others⟩ := Heap.depictsAll_cons.mp depicts
      rw [marksAll, List.length_append] at enough
      obtain ⟨walked, found, listed⟩ :=
        Figure.walk head _ first fit.1 (Nat.le_of_add_right_le enough)
      obtain ⟨rest, restFound, restListed⟩ :=
        walkParts tail unseen others fit.2 (Nat.le_of_add_left_le enough)
      refine ⟨walked :: rest, ?_, ?_⟩
      · simp only [List.map_cons, Image.walkParts, found, restFound, Option.bind_eq_bind,
          Option.bind_some, Option.pure_def]
      · rw [List.flatten_cons, List.map_append, fieldsVisited]
        exact listed.append restListed

theorem Figure.walkElements {fuel : Nat} {target : Target} : (figures : List (Figure Address)) →
    (count : Nat) → heap.DepictsAll figures → ElementsFit target figures →
    (marksAll figures).length ≤ fuel →
    ∃ walked, walkPointers heap (heap.walkRecord fuel) target
        ((figures.take count).map fun element => element.slot.target?) = some walked ∧
      (walked.map Prod.fst).Perm (elementsVisited target count figures)
  | [], count, _, _, _ => ⟨[], by cases count <;> rfl, by cases count <;> exact .refl _⟩
  | head :: tail, count, depicts, fit, enough => by
    cases count with
    | zero => exact ⟨[], rfl, .refl _⟩
    | succ count =>
      obtain ⟨first, others⟩ := Heap.depictsAll_cons.mp depicts
      rw [marksAll, List.length_append] at enough
      obtain ⟨walked, found, listed⟩ :=
        Figure.walk head _ first fit.1 (Nat.le_of_add_right_le enough)
      rw [fit.1.slot_eq_pointer] at found
      simp only [walkSlot] at found
      obtain ⟨rest, restFound, restListed⟩ :=
        walkElements tail count others fit.2 (Nat.le_of_add_left_le enough)
      refine ⟨walked ++ rest, ?_, ?_⟩
      · simp only [List.take_succ_cons, List.map_cons, walkPointers, found, restFound,
          Option.bind_eq_bind, Option.bind_some, Option.pure_def]
      · rw [List.map_append, elementsVisited]
        exact listed.append restListed

end

end Depicted

end SqlImage.Image
