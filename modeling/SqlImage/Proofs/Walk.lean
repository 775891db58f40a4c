/-
This file follows the pointers of an image the way they are followed when it is
given back, without giving anything back: the walk lists the cells in the order in
which they would be given back, each with what it would be given back as. A walk
depends on nothing but the cells that it lists. So if it lists no cell twice, giving
back the image is giving back the listed cells one after the other, although the
memory changes under way.
-/

import SqlImage.Image.Release
import SqlImage.Proofs.Heap

namespace SqlImage.Image

/-! ### The walk -/

section Walk

variable (heap : Heap) (walkRecord : Kind → Address → Option (List (Address × Layout)))

/-- The cells behind a pointer, if those behind records are known. -/
def walkPointer (target : Target) : Option Address → Option (List (Address × Layout))
  | none => some []
  | some address =>
    match target with
    | .text => (heap.text? address).map fun value => [(address, .ofText value)]
    | .node kind => walkRecord kind address

/-- The cells behind several pointers. -/
def walkPointers (target : Target) : List (Option Address) → Option (List (Address × Layout))
  | [] => some []
  | pointer :: rest => do
    let first ← walkPointer heap walkRecord target pointer
    return first ++ (← walkPointers target rest)

/-- The cells behind a slot, an array behind its elements. An array of which no element counts is
not given back. -/
def walkSlot : FieldType → Slot → Option (List (Address × Layout))
  | .pointer target, .pointer address => walkPointer heap walkRecord target address
  | .sequence target, .sequence (.array address) count => do
    let pointers ← heap.array? address count
    let elements ← walkPointers heap walkRecord target pointers
    return elements ++ (if count = 0 then [] else [(address, .array count)])
  | _, _ => some []

/-- The cells behind some fields of a record. -/
def walkFields (slots : List Slot) : List (Nat × Field) → Option (List (Address × Layout))
  | [] => some []
  | (position, field) :: rest =>
    match slots[position]? with
    | none => walkFields slots rest
    | some slot => do
      let first ← walkSlot heap walkRecord field.type slot
      return first ++ (← walkFields slots rest)

end Walk

namespace Heap

/-- The cells behind a record and the record itself, through pointers in a row of at most
`fuel`. -/
def walkRecord (heap : Heap) : (fuel : Nat) → Kind → Address → Option (List (Address × Layout))
  | 0, _, _ => none
  | fuel + 1, kind, address => do
    let (seen, slots) ← heap.record? kind address
    let below ← walkFields heap (heap.walkRecord fuel) slots seen.releasedFields
    return below ++ [(address, .record seen)]

/-- The cells of the image of a result. -/
def walk (heap : Heap) (root : Address) : Option (List (Address × Layout)) :=
  heap.walkRecord (heap.blocks.size + 1) .result root

/-! ### What a walk depends on -/

/-- Two memories have the same cells at the addresses of a walk. -/
def SameOn (heap later : Heap) (walked : List (Address × Layout)) : Prop :=
  ∀ address ∈ walked.map Prod.fst, later.cell? address = heap.cell? address

theorem SameOn.left {heap later : Heap} {first second : List (Address × Layout)}
    (same : heap.SameOn later (first ++ second)) : heap.SameOn later first :=
  fun address member => same address (by simp [member])

theorem SameOn.right {heap later : Heap} {first second : List (Address × Layout)}
    (same : heap.SameOn later (first ++ second)) : heap.SameOn later second :=
  fun address member => same address (by simp [member])

end Heap

section Frame

variable {heap later : Heap}
  {walkRecord laterRecord : Kind → Address → Option (List (Address × Layout))}
  (records : ∀ {kind address walked}, walkRecord kind address = some walked →
    heap.SameOn later walked → laterRecord kind address = some walked)
include records

theorem walkPointer_frame {target : Target} {pointer : Option Address}
    {walked : List (Address × Layout)}
    (found : walkPointer heap walkRecord target pointer = some walked)
    (same : heap.SameOn later walked) :
    walkPointer later laterRecord target pointer = some walked := by
  cases pointer with
  | none => exact found
  | some address =>
    cases target with
    | text =>
      obtain ⟨value, read, rfl⟩ := Option.map_eq_some_iff.mp found
      have cell := same address (by simp)
      simp only [walkPointer, Heap.text?, cell]
      rw [← Heap.text?, read]
      rfl
    | node kind => exact records found same

theorem walkPointers_frame {target : Target} {pointers : List (Option Address)}
    {walked : List (Address × Layout)}
    (found : walkPointers heap walkRecord target pointers = some walked)
    (same : heap.SameOn later walked) :
    walkPointers later laterRecord target pointers = some walked := by
  induction pointers generalizing walked with
  | nil => exact found
  | cons pointer rest inductionHypothesis =>
    simp only [walkPointers, Option.bind_eq_bind, Option.bind_eq_some_iff, Option.pure_def,
      Option.some.injEq] at found
    obtain ⟨first, firstFound, others, othersFound, rfl⟩ := found
    simp only [walkPointers, walkPointer_frame records firstFound same.left,
      inductionHypothesis othersFound same.right]
    rfl

theorem walkSlot_frame {type : FieldType} {slot : Slot} {walked : List (Address × Layout)}
    (found : walkSlot heap walkRecord type slot = some walked)
    (same : heap.SameOn later walked) :
    walkSlot later laterRecord type slot = some walked := by
  unfold walkSlot at found ⊢
  split at found
  · exact walkPointer_frame records found same
  · rename_i target address count
    simp only [Option.bind_eq_bind, Option.bind_eq_some_iff, Option.pure_def,
      Option.some.injEq] at found
    obtain ⟨pointers, array, elements, elementsFound, rfl⟩ := found
    have laterArray : later.array? address count = some pointers := by
      by_cases none : count = 0
      · simpa only [Heap.array?, if_pos none] using array
      · have cell := same address (by simp [none])
        simpa only [Heap.array?, cell] using array
    simp only [laterArray, Option.bind_eq_bind, Option.bind_some,
      walkPointers_frame records elementsFound same.left]
    rfl
  · exact found

theorem walkFields_frame {slots : List Slot} {fields : List (Nat × Field)}
    {walked : List (Address × Layout)}
    (found : walkFields heap walkRecord slots fields = some walked)
    (same : heap.SameOn later walked) :
    walkFields later laterRecord slots fields = some walked := by
  induction fields generalizing walked with
  | nil => exact found
  | cons place rest inductionHypothesis =>
    obtain ⟨position, field⟩ := place
    unfold walkFields at found ⊢
    cases slotThere : slots[position]? with
    | none =>
      rw [slotThere] at found
      exact inductionHypothesis found same
    | some slot =>
      simp only [slotThere, Option.bind_eq_bind, Option.bind_eq_some_iff, Option.pure_def,
        Option.some.injEq] at found
      obtain ⟨first, firstFound, others, othersFound, rfl⟩ := found
      simp only [walkSlot_frame records firstFound same.left,
        inductionHypothesis othersFound same.right]
      rfl

end Frame

namespace Heap

theorem record?_congr {heap later : Heap} {address : Address}
    (same : later.cell? address = heap.cell? address) (kind : Kind) :
    later.record? kind address = heap.record? kind address := by
  unfold record?
  rw [same]

/-- A walk comes by the same cells in any memory that has those, however many pointers more it
might follow. -/
theorem walkRecord_frame {heap later : Heap} {fuel more : Nat} (enough : fuel ≤ more) {kind : Kind}
    {address : Address} {walked : List (Address × Layout)}
    (found : heap.walkRecord fuel kind address = some walked) (same : heap.SameOn later walked) :
    later.walkRecord more kind address = some walked := by
  induction fuel generalizing more kind address walked with
  | zero => cases found
  | succ fuel inductionHypothesis =>
    obtain ⟨more, rfl⟩ : ∃ less, more = less + 1 := ⟨more - 1, by omega⟩
    simp only [walkRecord, Option.bind_eq_bind, Option.bind_eq_some_iff, Option.pure_def,
      Option.some.injEq, Prod.exists] at found
    obtain ⟨seen, slots, record, below, belowFound, rfl⟩ := found
    have cell := same address (by simp)
    have records : ∀ {kind address walked}, heap.walkRecord fuel kind address = some walked →
        heap.SameOn later walked → later.walkRecord more kind address = some walked :=
      fun found same => inductionHypothesis (Nat.le_of_succ_le_succ enough) found same
    simp only [walkRecord, record?_congr cell, record, Option.bind_eq_bind, Option.bind_some,
      walkFields_frame records belowFound same.left]
    rfl

/-- An image is as it was in any later memory that is no smaller and has its cells. -/
theorem walk_frame {heap later : Heap} {root : Address} {walked : List (Address × Layout)}
    (size : heap.blocks.size ≤ later.blocks.size) (found : heap.walk root = some walked)
    (same : heap.SameOn later walked) : later.walk root = some walked :=
  walkRecord_frame (Nat.succ_le_succ size) found same

/-! ### Giving back what a walk lists -/

theorem giveBackAll_sameOn {heap later : Heap} {given walked : List (Address × Layout)}
    (done : giveBackAll given heap = .ok later)
    (disjoint : (given.map Prod.fst).Disjoint (walked.map Prod.fst)) :
    heap.SameOn later walked := by
  intro address member
  rw [cell?, cell?, giveBackAll_block?_of_notMem done fun other => disjoint other member]

theorem giveBackAll_singleton (address : Address) (layout : Layout) (heap : Heap) :
    giveBackAll [(address, layout)] heap = heap.giveBack address layout := by
  simp only [giveBackAll]
  cases heap.giveBack address layout <;> rfl

end Heap

section Release

variable {fuel : Nat}
  (records : ∀ {heap : Heap} {kind address walked},
    heap.walkRecord fuel kind address = some walked → (walked.map Prod.fst).Nodup →
    releaseRecord fuel kind address heap = Heap.giveBackAll walked heap)
include records

theorem releasePointer_eq_giveBackAll {heap : Heap} {target : Target} {pointer : Option Address}
    {walked : List (Address × Layout)}
    (found : walkPointer heap (heap.walkRecord fuel) target pointer = some walked)
    (distinct : (walked.map Prod.fst).Nodup) :
    releasePointer (releaseRecord fuel) target heap pointer = Heap.giveBackAll walked heap := by
  cases pointer with
  | none =>
    cases found
    rfl
  | some address =>
    cases target with
    | text =>
      obtain ⟨value, read, rfl⟩ := Option.map_eq_some_iff.mp found
      have cell : heap.cell? address = some (.text value) := by
        unfold Heap.text? at read
        split at read
        · cases read
          assumption
        · cases read
      simp only [releasePointer, Heap.releaseText, cell, Heap.giveBackAll_singleton]
    | node kind => exact records found distinct

theorem releasePointers_eq_giveBackAll {heap : Heap} {target : Target}
    {pointers : List (Option Address)} {walked : List (Address × Layout)}
    (found : walkPointers heap (heap.walkRecord fuel) target pointers = some walked)
    (distinct : (walked.map Prod.fst).Nodup) :
    releasePointers (releaseRecord fuel) target pointers heap = Heap.giveBackAll walked heap := by
  induction pointers generalizing heap walked with
  | nil =>
    cases found
    rfl
  | cons pointer rest inductionHypothesis =>
    simp only [walkPointers, Option.bind_eq_bind, Option.bind_eq_some_iff, Option.pure_def,
      Option.some.injEq] at found
    obtain ⟨first, firstFound, others, othersFound, rfl⟩ := found
    obtain ⟨firstDistinct, othersDistinct, disjoint⟩ :=
      List.nodup_append'.mp (List.map_append ▸ distinct)
    rw [releasePointers, releasePointer_eq_giveBackAll records firstFound firstDistinct,
      Heap.giveBackAll_append]
    cases done : Heap.giveBackAll first heap with
    | error fault => rfl
    | ok next =>
      have same := Heap.giveBackAll_sameOn done disjoint
      exact inductionHypothesis
        (walkPointers_frame (Heap.walkRecord_frame (Nat.le_refl fuel)) othersFound same)
        othersDistinct

theorem releaseSlot_eq_giveBackAll {heap : Heap} {type : FieldType} {slot : Slot}
    {walked : List (Address × Layout)}
    (found : walkSlot heap (heap.walkRecord fuel) type slot = some walked)
    (distinct : (walked.map Prod.fst).Nodup) :
    releaseSlot (releaseRecord fuel) heap type slot = Heap.giveBackAll walked heap := by
  unfold walkSlot at found
  split at found
  · exact releasePointer_eq_giveBackAll records found distinct
  · rename_i target address count
    simp only [Option.bind_eq_bind, Option.bind_eq_some_iff, Option.pure_def,
      Option.some.injEq] at found
    obtain ⟨pointers, array, elements, elementsFound, rfl⟩ := found
    obtain ⟨elementsDistinct, -, -⟩ := List.nodup_append'.mp (List.map_append ▸ distinct)
    simp only [releaseSlot, array,
      releasePointers_eq_giveBackAll records elementsFound elementsDistinct,
      Heap.giveBackAll_append]
    cases Heap.giveBackAll elements heap with
    | error fault => rfl
    | ok next =>
      by_cases none : count = 0
      · simp only [none, if_true, Heap.giveBackAll]
      · simp only [none, if_false, Heap.giveBackAll_singleton]
  · rename_i noPointer noArray
    cases found
    rw [releaseSlot]
    · rfl
    · exact noPointer
    · exact noArray

theorem releaseFields_eq_giveBackAll {heap : Heap} {slots : List Slot}
    {fields : List (Nat × Field)} {walked : List (Address × Layout)}
    (found : walkFields heap (heap.walkRecord fuel) slots fields = some walked)
    (distinct : (walked.map Prod.fst).Nodup) :
    releaseFields (releaseRecord fuel) slots fields heap = Heap.giveBackAll walked heap := by
  induction fields generalizing heap walked with
  | nil =>
    cases found
    rfl
  | cons place rest inductionHypothesis =>
    obtain ⟨position, field⟩ := place
    unfold walkFields at found
    unfold releaseFields
    cases slotThere : slots[position]? with
    | none =>
      rw [slotThere] at found
      exact inductionHypothesis found distinct
    | some slot =>
      simp only [slotThere, Option.bind_eq_bind, Option.bind_eq_some_iff, Option.pure_def,
        Option.some.injEq] at found
      obtain ⟨first, firstFound, others, othersFound, rfl⟩ := found
      obtain ⟨firstDistinct, othersDistinct, disjoint⟩ :=
        List.nodup_append'.mp (List.map_append ▸ distinct)
      simp only [releaseSlot_eq_giveBackAll records firstFound firstDistinct,
        Heap.giveBackAll_append]
      cases done : Heap.giveBackAll first heap with
      | error fault => rfl
      | ok next =>
        have same := Heap.giveBackAll_sameOn done disjoint
        exact inductionHypothesis
          (walkFields_frame (Heap.walkRecord_frame (Nat.le_refl fuel)) othersFound same)
          othersDistinct

end Release

/-- If the walk from a record lists no cell twice, giving back the record is giving back the listed
cells one after the other. -/
theorem releaseRecord_eq_giveBackAll {heap : Heap} {fuel : Nat} {kind : Kind} {address : Address}
    {walked : List (Address × Layout)}
    (found : heap.walkRecord fuel kind address = some walked)
    (distinct : (walked.map Prod.fst).Nodup) :
    releaseRecord fuel kind address heap = Heap.giveBackAll walked heap := by
  induction fuel generalizing heap kind address walked with
  | zero => cases found
  | succ fuel inductionHypothesis =>
    simp only [Heap.walkRecord, Option.bind_eq_bind, Option.bind_eq_some_iff, Option.pure_def,
      Option.some.injEq, Prod.exists] at found
    obtain ⟨seen, slots, record, below, belowFound, rfl⟩ := found
    obtain ⟨belowDistinct, -, -⟩ := List.nodup_append'.mp (List.map_append ▸ distinct)
    simp only [releaseRecord, record,
      releaseFields_eq_giveBackAll inductionHypothesis belowFound belowDistinct,
      Heap.giveBackAll_append]
    cases Heap.giveBackAll below heap with
    | error fault => rfl
    | ok next => exact (Heap.giveBackAll_singleton address _ next).symm

/-- If the walk from the root lists no cell twice, giving back the image is giving back the listed
cells one after the other. -/
theorem Heap.release_eq_giveBackAll {heap : Heap} {root : Address}
    {walked : List (Address × Layout)} (found : heap.walk root = some walked)
    (distinct : (walked.map Prod.fst).Nodup) :
    heap.release (some root) = Heap.giveBackAll walked heap :=
  releaseRecord_eq_giveBackAll found distinct

/-- What leads nowhere cannot be given back. -/
theorem Heap.release_of_gone {heap : Heap} {root : Address} (gone : heap.cell? root = none) :
    heap.release (some root) = .error (.gone root) := by
  have record : heap.record? .result root = none := by simp only [Heap.record?, gone]
  have block : heap.block? root = none := Option.map_eq_none_iff.mp gone
  simp only [Heap.release, releaseRecord, record, block, Option.isSome_none, Bool.false_eq_true,
    if_false]

end SqlImage.Image
