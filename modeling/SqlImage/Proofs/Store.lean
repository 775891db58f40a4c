/-
This file says what keeping a content does to memory. It puts one new cell behind
the older ones for every cell that the content takes, and changes nothing else. If
the content is sound, it can be loaded again from any memory that still has these
cells, and the walk that gives them back lists each of them once, as what it was
made as. The walk takes the fields of a record in another order than the one they
are kept in, so the cells are listed in some order only.
-/

import SqlImage.Image.Store
import SqlImage.Proofs.Sound
import SqlImage.Proofs.Walk

namespace SqlImage.Image

/-! ### New cells -/

mutual

/-- Keeping a content makes as many cells as the content takes, and nothing else happens. -/
theorem Content.store_allocates : (content : Content) → (heap : Heap) →
    ∃ cells, cells.length = content.cells ∧ (content.store heap).2 = heap.allocateAll cells
  | .tag _, _ => ⟨[], rfl, rfl⟩
  | .flag _, _ => ⟨[], rfl, rfl⟩
  | .place _, _ => ⟨[], rfl, rfl⟩
  | .int _, _ => ⟨[], rfl, rfl⟩
  | .size _, _ => ⟨[], rfl, rfl⟩
  | .double _, _ => ⟨[], rfl, rfl⟩
  | .absent, _ => ⟨[], rfl, rfl⟩
  | .noList, _ => ⟨[], rfl, rfl⟩
  | .list [], _ => ⟨[], rfl, rfl⟩
  | .text value, _ => ⟨[.text value], rfl, rfl⟩
  | .record kind fields, heap => by
    obtain ⟨cells, length, stored⟩ := storeAll_allocates fields heap
    refine ⟨cells ++ [.record kind (storeAll fields heap).1], ?_, ?_⟩
    · simp only [List.length_append, length, List.length_cons, List.length_nil, Content.cells]
      omega
    · rw [Heap.allocateAll_append, ← stored]
      rfl
  | .list (head :: tail), heap => by
    obtain ⟨cells, length, stored⟩ := head.store_allocates heap
    obtain ⟨others, othersLength, othersStored⟩ := storeAll_allocates tail (head.store heap).2
    refine ⟨cells ++ others ++ [.array (((head.store heap).1 ::
      (storeAll tail (head.store heap).2).1).map Slot.target?)], ?_, ?_⟩
    · simp only [List.length_append, length, othersLength, List.length_cons, List.length_nil,
        Content.cells]
      omega
    · rw [Heap.allocateAll_append, Heap.allocateAll_append, ← stored, ← othersStored]
      rfl

theorem storeAll_allocates : (contents : List Content) → (heap : Heap) →
    ∃ cells, cells.length = contentsCells contents ∧
      (storeAll contents heap).2 = heap.allocateAll cells
  | [], _ => ⟨[], rfl, rfl⟩
  | head :: tail, heap => by
    obtain ⟨cells, length, stored⟩ := head.store_allocates heap
    obtain ⟨others, othersLength, othersStored⟩ := storeAll_allocates tail (head.store heap).2
    refine ⟨cells ++ others, ?_, ?_⟩
    · simp only [List.length_append, length, othersLength, contentsCells]
    · rw [Heap.allocateAll_append, ← stored, ← othersStored]
      rfl

end

theorem Content.store_size (content : Content) (heap : Heap) :
    (content.store heap).2.blocks.size = heap.blocks.size + content.cells := by
  obtain ⟨cells, length, stored⟩ := content.store_allocates heap
  rw [stored, Heap.allocateAll_size, length]

theorem storeAll_size (contents : List Content) (heap : Heap) :
    (storeAll contents heap).2.blocks.size = heap.blocks.size + contentsCells contents := by
  obtain ⟨cells, length, stored⟩ := storeAll_allocates contents heap
  rw [stored, Heap.allocateAll_size, length]

theorem keptIn_storeAll (contents : List Content) (heap : Heap) :
    heap.KeptIn (storeAll contents heap).2 := by
  obtain ⟨cells, -, stored⟩ := storeAll_allocates contents heap
  rw [stored]
  exact heap.keptIn_allocateAll cells

/-- The cell that was just made is there. -/
theorem Heap.allocate_cell? (heap : Heap) (cell : Cell) :
    (heap.allocate cell).2.cell? heap.blocks.size = some cell := by
  rw [Heap.cell?, Heap.block?, Heap.allocate_blocks, Array.getElem?_push_size]
  rfl

theorem Heap.keptIn_allocate (heap : Heap) (cell : Cell) :
    heap.KeptIn (heap.allocate cell).2 :=
  heap.keptIn_allocateAll [cell]

/-! ### What memory holds -/

mutual

/-- Memory holds a content in a slot, in the cells from `start` on: first what a record or an array
leads to, then the record or the array itself. -/
inductive Holds (heap : Heap) : Content → Slot → Address → Prop
  | tag (ordinal : UInt32) (start : Address) : Holds heap (.tag ordinal) (.tag ordinal) start
  | flag (value : Bool) (start : Address) : Holds heap (.flag value) (.flag value) start
  | place (value : Int32) (start : Address) : Holds heap (.place value) (.place value) start
  | int (value : Int64) (start : Address) : Holds heap (.int value) (.int value) start
  | size (value : UInt64) (start : Address) : Holds heap (.size value) (.size value) start
  | double (value : Double) (start : Address) : Holds heap (.double value) (.double value) start
  | absent (start : Address) : Holds heap .absent (.pointer none) start
  | text {value : String} {start : Address} (cell : heap.cell? start = some (.text value)) :
    Holds heap (.text value) (.pointer (some start)) start
  | record {kind : Kind} {fields : List Content} {slots : List Slot} {start : Address}
    (below : HoldsAll heap fields slots start)
    (cell : heap.cell? (start + contentsCells fields) = some (.record kind slots)) :
    Holds heap (.record kind fields) (.pointer (some (start + contentsCells fields))) start
  | noList (start : Address) : Holds heap .noList (.sequence .absent 0) start
  | emptyList (start : Address) : Holds heap (.list []) (.sequence .empty 0) start
  | list {head : Content} {tail : List Content} {slots : List Slot} {start : Address}
    (below : HoldsAll heap (head :: tail) slots start)
    (cell : heap.cell? (start + contentsCells (head :: tail)) =
      some (.array (slots.map Slot.target?))) :
    Holds heap (.list (head :: tail))
      (.sequence (.array (start + contentsCells (head :: tail))) slots.length) start

/-- Memory holds contents in slots, one behind the other. -/
inductive HoldsAll (heap : Heap) : List Content → List Slot → Address → Prop
  | nil (start : Address) : HoldsAll heap [] [] start
  | cons {head : Content} {tail : List Content} {slot : Slot} {slots : List Slot}
    {start : Address} (first : Holds heap head slot start)
    (others : HoldsAll heap tail slots (start + head.cells)) :
    HoldsAll heap (head :: tail) (slot :: slots) start

end

mutual

/-- A content that was kept is held by every memory that still has its cells. -/
theorem Content.holds_store {later : Heap} : (content : Content) → (heap : Heap) →
    (content.store heap).2.KeptIn later →
    Holds later content (content.store heap).1 heap.blocks.size
  | .tag ordinal, heap, _ => .tag ordinal _
  | .flag value, heap, _ => .flag value _
  | .place value, heap, _ => .place value _
  | .int value, heap, _ => .int value _
  | .size value, heap, _ => .size value _
  | .double value, heap, _ => .double value _
  | .absent, heap, _ => .absent _
  | .noList, heap, _ => .noList _
  | .list [], heap, _ => .emptyList _
  | .text value, heap, kept => .text (kept _ _ (heap.allocate_cell? (.text value)))
  | .record kind fields, heap, kept => by
    have below := storeAll_holds fields heap ((Heap.keptIn_allocate _ _).trans kept)
    have cell := kept _ _ (Heap.allocate_cell? (storeAll fields heap).2
      (.record kind (storeAll fields heap).1))
    rw [storeAll_size] at cell
    have held := Holds.record below cell
    rwa [← storeAll_size] at held
  | .list (head :: tail), heap, kept => by
    have below := storeAll_holds (head :: tail) heap ((Heap.keptIn_allocate _ _).trans kept)
    have cell := kept _ _ (Heap.allocate_cell? (storeAll (head :: tail) heap).2
      (.array ((storeAll (head :: tail) heap).1.map Slot.target?)))
    rw [storeAll_size] at cell
    have held := Holds.list below cell
    rwa [← storeAll_size] at held

theorem storeAll_holds {later : Heap} : (contents : List Content) → (heap : Heap) →
    (storeAll contents heap).2.KeptIn later →
    HoldsAll later contents (storeAll contents heap).1 heap.blocks.size
  | [], heap, _ => .nil _
  | head :: tail, heap, kept => by
    have first := head.holds_store heap ((keptIn_storeAll tail _).trans kept)
    have others := storeAll_holds tail (head.store heap).2 kept
    rw [Content.store_size] at others
    exact .cons first others

end

/-! ### Slots and records -/

section Held

variable {heap : Heap}

theorem HoldsAll.length {contents : List Content} {slots : List Slot} {start : Address}
    (held : HoldsAll heap contents slots start) : slots.length = contents.length := by
  induction contents generalizing slots start with
  | nil =>
    cases held
    rfl
  | cons head tail inductionHypothesis =>
    cases held with
    | cons first others => exact congrArg (· + 1) (inductionHypothesis others)

/-- What a pointer may lead to is held behind a pointer. -/
theorem Holds.slot_eq_pointer {content : Content} {slot : Slot} {start : Address}
    (held : Holds heap content slot start) {target : Target}
    (sound : content.Sound (.pointer target)) : slot = .pointer slot.target? := by
  cases held <;> first | rfl | exact sound.elim

/-- A record is seen as what it was laid out as. -/
theorem HoldsAll.seen {fields : List Content} {slots : List Slot} {start : Address}
    (held : HoldsAll heap fields slots start) (kind : Kind) :
    kind.seen slots = kind.laidOut fields := by
  cases kind with
  | statement =>
    cases held with
    | nil => rfl
    | cons first others => cases first <;> rfl
  | _ => rfl

/-- A record that is held can be looked up. -/
theorem HoldsAll.record? {kind actual : Kind} {fields : List Content} {slots : List Slot}
    {start address : Address} (held : HoldsAll heap fields slots start)
    (laidOut : kind.laidOut fields = actual)
    (cell : heap.cell? address = some (.record actual slots)) :
    heap.record? kind address = some (actual, slots) := by
  simp only [Heap.record?, cell, held.seen, laidOut, Kind.mayBeSeen, decide_true, Bool.true_or,
    if_true]

/-- An array that is held can be looked up, as long as all its elements count. -/
theorem Heap.array?_of_cell {address : Address} {pointers : List (Option Address)}
    (cell : heap.cell? address = some (.array pointers)) :
    heap.array? address pointers.length = some pointers := by
  unfold Heap.array?
  split
  · rename_i none
    rw [List.eq_nil_of_length_eq_zero none]
  · simp only [cell, Nat.le_refl, if_true, List.take_length]

/-! ### Loading -/

mutual

/-- A sound content that memory holds can be loaded. -/
theorem Holds.load {content : Content} {slot : Slot} {start : Address} {type : FieldType}
    {fuel : Nat} : Holds heap content slot start → content.Sound type → content.cells ≤ fuel →
    loadSlot heap (heap.loadRecord fuel) type slot = some content
  | @Holds.record _ actual fields slots _ below cell, sound, enough => by
    match type, sound with
    | .pointer (.node kind), sound =>
      obtain ⟨laidOut, fieldsSound⟩ := sound
      rw [Content.cells] at enough
      obtain ⟨less, rfl⟩ : ∃ less, fuel = less + 1 := ⟨fuel - 1, by omega⟩
      have lessEnough : contentsCells fields ≤ less := by omega
      simp only [loadSlot, loadPointer, Heap.loadRecord, below.record? laidOut cell,
        Option.bind_eq_bind, Option.bind_some,
        below.loadSlots fieldsSound lessEnough,
        Option.pure_def]
  | @Holds.list _ head tail slots _ below cell, sound, enough => by
    match type, sound with
    | .sequence target, sound =>
      have array := Heap.array?_of_cell cell
      rw [List.length_map] at array
      have elementsEnough : contentsCells (head :: tail) ≤ fuel := by
        rw [Content.cells] at enough
        rw [contentsCells]
        omega
      simp only [loadSlot, array, Option.bind_eq_bind, Option.bind_some,
        below.loadPointers sound elementsEnough, Option.pure_def]
  | .text cell, sound, _ => by
    match type, sound with
    | .pointer .text, sound => simp only [loadSlot, loadPointer, Heap.text?, cell, Option.map_some]
  | .tag _ _, sound, _ => by cases type <;> first | rfl | exact sound.elim
  | .flag _ _, sound, _ => by cases type <;> first | rfl | exact sound.elim
  | .place _ _, sound, _ => by cases type <;> first | rfl | exact sound.elim
  | .int _ _, sound, _ => by cases type <;> first | rfl | exact sound.elim
  | .size _ _, sound, _ => by cases type <;> first | rfl | exact sound.elim
  | .double _ _, sound, _ => by cases type <;> first | rfl | exact sound.elim
  | .absent _, sound, _ => by cases type <;> first | rfl | exact sound.elim
  | .noList _, sound, _ => by cases type <;> first | rfl | exact sound.elim
  | .emptyList _, sound, _ => by cases type <;> first | rfl | exact sound.elim

theorem HoldsAll.loadPointers {contents : List Content} {slots : List Slot} {start : Address}
    {target : Target} {fuel : Nat} : HoldsAll heap contents slots start →
    ElementsSound target contents → contentsCells contents ≤ fuel →
    (slots.map Slot.target?).mapM (loadPointer heap (heap.loadRecord fuel) target) =
      some contents
  | .nil _, _, _ => rfl
  | .cons first others, sound, enough => by
    rw [contentsCells] at enough
    have loaded := first.load sound.1.2 (Nat.le_of_add_right_le enough)
    rw [first.slot_eq_pointer sound.1.2] at loaded
    simp only [loadSlot] at loaded
    simp only [List.map_cons, List.mapM_cons, loaded, Option.bind_eq_bind, Option.bind_some,
      others.loadPointers sound.2 (Nat.le_of_add_left_le enough), Option.pure_def]

theorem HoldsAll.loadSlots {contents : List Content} {slots : List Slot} {start : Address}
    {kind : Kind} {fields : List Field} {fuel : Nat} : HoldsAll heap contents slots start →
    FieldsSound kind fields contents → contentsCells contents ≤ fuel →
    loadSlots heap (heap.loadRecord fuel) fields slots = some contents
  | .nil _, sound, _ => by
    match fields, sound with
    | [], _ => rfl
  | .cons first others, sound, enough => by
    match fields, sound with
    | field :: fields, sound =>
      rw [contentsCells] at enough
      simp only [Image.loadSlots, first.load sound.1.1 (Nat.le_of_add_right_le enough),
        Option.bind_eq_bind, Option.bind_some,
        others.loadSlots sound.2 (Nat.le_of_add_left_le enough), Option.pure_def]

end

end Held

/-! ### Images -/

/-- The root of an image that was kept leads to its record. -/
theorem Heap.store_fst (heap : Heap) (result : Tree.ParseResult) :
    (result.content.store heap).1 = .pointer (some (heap.store result).1) := by
  cases result <;> rfl

/-- Every memory that still has the cells of an image holds its content. -/
theorem Heap.holds_store {heap later : Heap} {result : Tree.ParseResult}
    (kept : (heap.store result).2.KeptIn later) :
    Holds later result.content (.pointer (some (heap.store result).1)) heap.blocks.size := by
  rw [← Heap.store_fst]
  exact result.content.holds_store heap kept

theorem Heap.size_store (heap : Heap) (result : Tree.ParseResult) :
    (heap.store result).2.blocks.size = heap.blocks.size + result.content.cells :=
  result.content.store_size heap

/-- An image can be loaded as soon as it was kept. -/
theorem Heap.load_store (heap : Heap) (result : Tree.ParseResult) :
    (heap.store result).2.load (heap.store result).1 = some result.content := by
  have enough : result.content.cells ≤ (heap.store result).2.blocks.size + 1 := by
    rw [Heap.size_store]
    omega
  exact (Heap.holds_store (KeptIn.refl _)).load result.content_sound enough

end SqlImage.Image
