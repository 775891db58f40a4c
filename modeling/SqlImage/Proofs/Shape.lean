/-
This file says what the cells of an image look like. Every slot of a record fits its
field: a tag stands for something, a pointer leads to what it is meant for and is
there if it is needed, and a sequence has as many elements as it counts. A
statement is laid out in full exactly if its tag says that it is a select, so that
whoever follows the tag takes the statement for what it was laid out as. The root
has either statements or a message.
-/

import SqlImage.Proofs.Ownership
import SqlImage.Proofs.Restore

namespace SqlImage.Image

open SqlImage.Tree

/-! ### Slots and their fields -/

/-- What a pointer or an element meant for a target leads to is there and is what it is meant for.
A record that is meant to be a statement is a select if its tag says so. -/
def Heap.IsFor (heap : Heap) (address : Address) : Target → Prop
  | .text => ∃ value, heap.cell? address = some (.text value)
  | .node kind => ∃ slots, heap.cell? address = some (.record (kind.seen slots) slots)

/-- A slot is what a field of a record of a kind demands. -/
def Heap.Fits (heap : Heap) (kind : Kind) (field : Field) (slot : Slot) : Prop :=
  match field.type, slot with
  | .tag, .tag ordinal => kind.knows field.name ordinal = true
  | .flag, .flag _ => True
  | .place, .place _ => True
  | .int, .int _ => True
  | .size, .size _ => True
  | .double, .double _ => True
  | .pointer _, .pointer none => field.name ∉ kind.required
  | .pointer target, .pointer (some address) => heap.IsFor address target
  | .sequence _, .sequence .absent count => count = 0
  | .sequence _, .sequence .empty count => count = 0
  | .sequence target, .sequence (.array array) count =>
    ∃ pointers, heap.cell? array = some (.array pointers) ∧ pointers.length = count ∧
      ∀ pointer ∈ pointers, ∃ address, pointer = some address ∧ heap.IsFor address target
  | _, _ => False

section Held

variable {heap : Heap}

/-- What is held for a target and is not absent is what it is meant for. -/
theorem Holds.isFor {content : Content} {slot : Slot} {start : Address} {target : Target}
    (held : Holds heap content slot start) (sound : content.Sound (.pointer target))
    (present : content ≠ .absent) :
    ∃ address, slot.target? = some address ∧ heap.IsFor address target := by
  cases held with
  | absent => exact (present rfl).elim
  | text cell =>
    match target, sound with
    | .text, _ => exact ⟨_, rfl, _, cell⟩
  | @record actual fields slots _ below cell =>
    match target, sound with
    | .node kind, sound =>
      refine ⟨_, rfl, slots, ?_⟩
      rw [below.seen, sound.1]
      exact cell
  | _ => exact sound.elim

theorem HoldsAll.isFor {contents : List Content} {slots : List Slot} {start : Address}
    {target : Target} (held : HoldsAll heap contents slots start)
    (sound : ElementsSound target contents) :
    ∀ pointer ∈ slots.map Slot.target?, ∃ address, pointer = some address ∧
      heap.IsFor address target := by
  induction contents generalizing slots start with
  | nil =>
    cases held
    simp
  | cons head tail inductionHypothesis =>
    cases held with
    | cons first others =>
      rw [List.map_cons, List.forall_mem_cons]
      exact ⟨first.isFor sound.1.2 sound.1.1, inductionHypothesis others sound.2⟩

/-- What is held for a field fits the field. -/
theorem Holds.fits {content : Content} {slot : Slot} {start : Address} {kind : Kind}
    {field : Field} (held : Holds heap content slot start) (sound : content.Sound field.type)
    (admitted : kind.admits field.name content = true) : heap.Fits kind field slot := by
  obtain ⟨name, type⟩ := field
  cases held with
  | absent =>
    match type, sound with
    | .pointer target, _ =>
      have free : name ∉ kind.required := of_decide_eq_true admitted
      exact free
  | text cell =>
    match type, sound with
    | .pointer .text, _ => exact ⟨_, cell⟩
  | record below cell =>
    match type, sound with
    | .pointer (.node _), sound =>
      obtain ⟨address, found, isFor⟩ := (Holds.record below cell).isFor sound Content.noConfusion
      cases found
      exact isFor
  | list below cell =>
    match type, sound with
    | .sequence _, sound => exact ⟨_, cell, List.length_map _, below.isFor sound⟩
  | tag ordinal => cases type <;> first | exact admitted | exact sound.elim
  | noList => cases type <;> first | rfl | exact sound.elim
  | emptyList => cases type <;> first | rfl | exact sound.elim
  | _ => cases type <;> trivial

theorem HoldsAll.fits {contents : List Content} {slots : List Slot} {start : Address}
    {kind : Kind} {fields : List Field} (held : HoldsAll heap contents slots start)
    (sound : FieldsSound kind fields contents) :
    List.Forall₂ (heap.Fits kind) fields slots := by
  induction fields generalizing contents slots start with
  | nil =>
    cases contents with
    | nil =>
      cases held
      exact .nil
    | cons head tail => exact sound.elim
  | cons field fields inductionHypothesis =>
    cases contents with
    | nil => exact sound.elim
    | cons head tail =>
      cases held with
      | cons first others =>
        exact .cons (first.fits sound.1.1 sound.1.2) (inductionHypothesis others sound.2)

/-! ### All records of an image -/

/-- If a record is kept at an address, all its slots fit their fields. -/
def Heap.FitsAt (heap : Heap) (address : Address) : Prop :=
  ∀ kind slots, heap.cell? address = some (.record kind slots) →
    List.Forall₂ (heap.Fits kind) kind.fields slots

theorem Heap.fitsAt_of_cell {address : Address} {cell : Cell}
    (there : heap.cell? address = some cell)
    (fits : ∀ kind slots, cell = .record kind slots →
      List.Forall₂ (heap.Fits kind) kind.fields slots) : heap.FitsAt address :=
  fun kind slots found => fits kind slots (Option.some.inj (there.symm.trans found))

mutual

/-- The slots of all records that hold a sound content fit their fields. -/
theorem Holds.fitsAt {content : Content} {slot : Slot} {start : Address} {type : FieldType} :
    Holds heap content slot start → content.Sound type →
    ∀ address ∈ List.range' start content.cells, heap.FitsAt address
  | .record below cell, sound => by
    match type, sound with
    | .pointer (.node kind), sound =>
      rw [Content.cells, Nat.add_comm 1, List.range'_1_concat, List.forall_mem_append]
      refine ⟨below.fitsAt sound.2.each, List.forall_mem_singleton.mpr ?_⟩
      refine Heap.fitsAt_of_cell cell fun _ _ same => ?_
      cases same
      exact below.fits sound.2
  | .list below cell, sound => by
    match type, sound with
    | .sequence target, sound =>
      rw [Content.cells, Nat.add_assoc 1, Nat.add_comm 1]
      refine List.range'_1_concat ▸ List.forall_mem_append.mpr
        ⟨below.fitsAt sound.each, List.forall_mem_singleton.mpr ?_⟩
      exact Heap.fitsAt_of_cell cell fun _ _ same => Cell.noConfusion same
  | .text cell, _ => List.forall_mem_singleton.mpr
      (Heap.fitsAt_of_cell cell fun _ _ same => Cell.noConfusion same)
  | .tag _ _, _ => by simp [Content.cells]
  | .flag _ _, _ => by simp [Content.cells]
  | .place _ _, _ => by simp [Content.cells]
  | .int _ _, _ => by simp [Content.cells]
  | .size _ _, _ => by simp [Content.cells]
  | .double _ _, _ => by simp [Content.cells]
  | .absent _, _ => by simp [Content.cells]
  | .noList _, _ => by simp [Content.cells]
  | .emptyList _, _ => by simp [Content.cells]

theorem HoldsAll.fitsAt {contents : List Content} {slots : List Slot} {start : Address} :
    HoldsAll heap contents slots start → (∀ content ∈ contents, ∃ type, content.Sound type) →
    ∀ address ∈ List.range' start (contentsCells contents), heap.FitsAt address
  | .nil _, _ => by simp [contentsCells]
  | .cons first others, sound => by
    obtain ⟨type, firstSound⟩ := sound _ List.mem_cons_self
    rw [contentsCells, ← List.range'_append_1, List.forall_mem_append]
    exact ⟨first.fitsAt firstSound,
      others.fitsAt fun content member => sound content (List.mem_cons_of_mem _ member)⟩

end

end Held

/-! ### Statements and the root -/

/-- The record at an address is laid out for a statement: in full if its tag says that it is a
select, and else by its base. The tag is the one of the statement, and whoever follows it takes the
record for what it was laid out as. -/
def Heap.ShowsStatement (heap : Heap) (address : Address) (statement : Statement) : Prop :=
  ∃ kind ordinal rest, heap.cell? address = some (.record kind (.tag ordinal :: rest)) ∧
    ordinal = UInt32.ofNat (Tag.ordinal statement.base.kind) ∧
    (kind = .select ↔ ordinal = UInt32.ofNat (Tag.ordinal StatementKind.select)) ∧
    kind = (Routine.ofKind statement.base.kind).kind ∧
    Routine.ofOrdinal ordinal = Routine.ofKind statement.base.kind ∧
    heap.record? .statement address = some (kind, .tag ordinal :: rest)

/-- The record at the root is laid out for a result: it has statements and no message, or a message
and no statements. -/
def Heap.ShowsResult (heap : Heap) (root : Address) : ParseResult → Prop
  | .valid statements => ∃ elements pointers,
    heap.cell? root = some (.record .result
      [.flag true, .pointer none, .place 0, .place 0, .sequence elements statements.length]) ∧
    ((elements = .empty ∧ pointers = []) ∨
      ∃ array, elements = .array array ∧ heap.cell? array = some (.array pointers)) ∧
    List.Forall₂ (fun pointer statement => ∃ address, pointer = some address ∧
      heap.ShowsStatement address statement) pointers statements
  | .invalid error => ∃ message, heap.cell? root = some (.record .result
      [.flag false, .pointer (some message), .place error.line, .place error.column,
        .sequence .absent 0])

section Held

variable {heap : Heap}

theorem Holds.showsStatement {statement : Statement} {slot : Slot} {start : Address}
    (held : Holds heap statement.content slot start) :
    ∃ address, slot.target? = some address ∧ heap.ShowsStatement address statement := by
  have sound := statement.content_sound
  obtain ⟨rest, shown⟩ := statement.content_eq
  rw [shown] at held sound
  cases held with
  | record below cell =>
    have record := below.record? sound.1 cell
    cases below with
    | cons first others =>
      cases first with
      | tag ordinal =>
        exact ⟨_, rfl, _, _, _, cell, rfl, Routine.kind_ofKind_eq_select_iff _, rfl,
          Routine.ofOrdinal_ordinal _, record⟩

theorem HoldsAll.showsStatements {statements : List Statement} {slots : List Slot}
    {start : Address} (held : HoldsAll heap (statements.map Statement.content) slots start) :
    List.Forall₂ (fun pointer statement => ∃ address, pointer = some address ∧
      heap.ShowsStatement address statement) (slots.map Slot.target?) statements := by
  induction statements generalizing slots start with
  | nil =>
    cases held
    exact .nil
  | cons statement rest inductionHypothesis =>
    cases held with
    | cons first others => exact .cons first.showsStatement (inductionHypothesis others)

theorem HoldsAll.cons_inv {head : Content} {tail : List Content} {slots : List Slot}
    {start : Address} (held : HoldsAll heap (head :: tail) slots start) :
    ∃ slot rest, slots = slot :: rest ∧ Holds heap head slot start ∧
      HoldsAll heap tail rest (start + head.cells) := by
  cases held with
  | cons first others => exact ⟨_, _, rfl, first, others⟩

/-- What memory holds at the root of an image. -/
theorem Holds.root {isValid : Bool} {message elements : Content} {line column : Int32}
    {root start : Address}
    (held : Holds heap (.record .result
      [.flag isValid, message, .place line, .place column, elements])
      (.pointer (some root)) start) :
    ∃ messageSlot messageStart elementsSlot elementsStart, heap.cell? root = some (.record .result
        [.flag isValid, messageSlot, .place line, .place column, elementsSlot]) ∧
      Holds heap message messageSlot messageStart ∧
      Holds heap elements elementsSlot elementsStart := by
  cases held with
  | record all cell =>
    obtain ⟨_, _, rfl, flagHeld, afterFlag⟩ := all.cons_inv
    obtain ⟨_, _, rfl, messageHeld, afterMessage⟩ := afterFlag.cons_inv
    obtain ⟨_, _, rfl, lineHeld, afterLine⟩ := afterMessage.cons_inv
    obtain ⟨_, _, rfl, columnHeld, afterColumn⟩ := afterLine.cons_inv
    obtain ⟨_, _, rfl, elementsHeld, afterElements⟩ := afterColumn.cons_inv
    cases flagHeld
    cases lineHeld
    cases columnHeld
    cases afterElements
    exact ⟨_, _, _, _, cell, messageHeld, elementsHeld⟩

/-- The root of an image that memory holds shows the result. -/
theorem Holds.showsResult {result : ParseResult} {root start : Address}
    (held : Holds heap result.content (.pointer (some root)) start) :
    heap.ShowsResult root result := by
  cases result with
  | valid statements =>
    obtain ⟨_, _, _, _, cell, message, elements⟩ := held.root
    cases message
    cases statements with
    | nil =>
      cases elements
      exact ⟨.empty, [], cell, .inl ⟨rfl, rfl⟩, .nil⟩
    | cons statement rest =>
      cases elements with
      | @list _ _ slots _ below array =>
        have length : slots.length = (statement :: rest).length := by
          rw [below.length, ← List.map_cons, List.length_map]
        rw [length] at cell
        exact ⟨_, _, cell, .inr ⟨_, rfl, array⟩, HoldsAll.showsStatements below⟩
  | invalid error =>
    obtain ⟨_, _, _, _, cell, message, elements⟩ := held.root
    cases message
    cases elements
    exact ⟨_, cell⟩

end Held

/-! ### Images -/

/-- What the image of a result is, which was made in `heap` and made it `stored`. -/
structure IsImage (heap stored : Heap) (root : Address) (result : ParseResult) : Prop where
  /-- No older cell has changed. -/
  older : ∀ address < heap.blocks.size, stored.block? address = heap.block? address
  /-- The new cells are as many as the result takes. -/
  size : stored.blocks.size = heap.blocks.size + result.cells
  /-- They are a tree, and nothing else can be reached. -/
  tree : stored.IsTree root heap.blocks.size result.cells
  /-- Nothing was kept at their addresses before. They belong to the innermost scope and are not
  given back yet. -/
  fresh : ∀ address, stored.Reaches root address → heap.block? address = none ∧
    ∃ cell, stored.block? address = some (heap.freshBlock cell)
  /-- Each slot of each record is what its field demands. -/
  fits : ∀ address, stored.Reaches root address → ∀ kind slots,
    stored.cell? address = some (.record kind slots) →
      List.Forall₂ (stored.Fits kind) kind.fields slots
  /-- The root shows the result, and the statements below it are laid out by their kinds. -/
  shows : stored.ShowsResult root result

/-- Keeping a result makes an image of it. -/
theorem Heap.isImage_store (heap : Heap) (result : ParseResult) :
    IsImage heap (heap.store result).2 (heap.store result).1 result := by
  have held : Holds _ result.content _ heap.blocks.size :=
    Heap.holds_store (KeptIn.refl (heap.store result).2)
  have tree := heap.isTree_store result
  have size : (heap.store result).2.blocks.size = heap.blocks.size + result.cells := by
    rw [size_store, result.content_cells]
  rw [result.content_cells] at tree
  constructor
  case older => exact fun address older => store_block?_of_lt older
  case size => exact size
  case tree => exact tree
  case fresh =>
    intro address reached
    have inside := (tree.reaches address).mp reached
    exact ⟨block?_eq_none_of_size_le heap address inside.1,
      store_block?_of_mem (List.mem_range'_1.mpr inside)⟩
  case fits =>
    intro address reached
    refine held.fitsAt result.content_sound address (List.mem_range'_1.mpr ?_)
    rw [result.content_cells]
    exact (tree.reaches address).mp reached
  case shows => exact held.showsResult

end SqlImage.Image
