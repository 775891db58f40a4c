/-
This file follows one image through what is done with memory. As long as it is kept,
all its cells agree on the scope that made them and on whether they were given back
there, so giving back the image in a scope counts all of its cells in the same way.
Once the scope that made it and had it back closes, or once it is given back without
a scope, its root is gone for good.
-/

import SqlImage.Proofs.Ledger
import SqlImage.Proofs.Restore

namespace SqlImage.Image

/-- The addresses of an image that takes a number of cells. The root is the last of them. -/
def extent (root : Address) (count : Nat) : List Address := List.range' (root + 1 - count) count

/-- Below a root there is room for an image of a number of cells. -/
def Room (root : Address) (count : Nat) : Prop := 0 < count ∧ count ≤ root + 1

theorem Room.mem_extent {root : Address} {count : Nat} (room : Room root count)
    {address : Address} : address ∈ extent root count ↔ root + 1 - count ≤ address ∧
      address < root + 1 := by
  rw [extent, List.mem_range'_1, Nat.sub_add_cancel room.2]

theorem Room.root_mem {root : Address} {count : Nat} (room : Room root count) :
    root ∈ extent root count :=
  room.mem_extent.mpr ⟨Nat.le_of_lt_succ (Nat.sub_lt (Nat.succ_pos root) room.1),
    Nat.lt_succ_self root⟩

/-- An image of a number of cells is there. Its cells were made in one scope, or without one, and
were all given back there or none of them. -/
structure Kept (heap : Heap) (root : Address) (count : Nat) (scope : Option Nat)
    (released : Bool) : Prop where
  room : Room root count
  walk : ∃ given, heap.walk root = some given ∧ Lists heap given (root + 1 - count) count
  blocks : ∀ address ∈ extent root count, ∃ block, heap.block? address = some block ∧
    block.layout = block.cell.layout ∧ block.scope = scope ∧ block.released = released

namespace Kept

variable {heap later : Heap} {root : Address} {count : Nat} {scope : Option Nat}
  {released : Bool}

theorem lt_size (kept : Kept heap root count scope released) : root < heap.blocks.size := by
  obtain ⟨block, found, -⟩ := kept.blocks root kept.room.root_mem
  exact Heap.lt_size_of_block? found

/-- An image stays as long as its cells stay and nothing about their scopes changes. -/
theorem of_cells (kept : Kept heap root count scope released)
    (size : heap.blocks.size ≤ later.blocks.size) {laterReleased : Bool}
    (cells : ∀ address, later.cell? address = heap.cell? address ∨ address ∉ extent root count)
    (blocks : ∀ address ∈ extent root count, ∃ block, later.block? address = some block ∧
      block.layout = block.cell.layout ∧ block.scope = scope ∧ block.released = laterReleased) :
    Kept later root count scope laterReleased where
  room := kept.room
  walk := by
    obtain ⟨given, found, listed⟩ := kept.walk
    have same : heap.SameOn later given := fun address member =>
      (cells address).resolve_right fun outside => outside (listed.addresses.mem_iff.mp member)
    refine ⟨given, Heap.walk_frame size found same, listed.addresses, fun entry member => ?_⟩
    rw [same entry.1 (List.mem_map_of_mem member), listed.layouts entry member]
  blocks := blocks

/-- An image stays as long as its blocks stay. -/
theorem of_blocks (kept : Kept heap root count scope released)
    (size : heap.blocks.size ≤ later.blocks.size)
    (same : ∀ address ∈ extent root count, later.block? address = heap.block? address) :
    Kept later root count scope released := by
  refine kept.of_cells size (fun address => ?_) fun address member => ?_
  · by_cases member : address ∈ extent root count
    · exact .inl (by rw [Heap.cell?, Heap.cell?, same address member])
    · exact .inr member
  · rw [same address member]
    exact kept.blocks address member

end Kept

/-! ### Making an image -/

theorem Holds.root_eq {heap : Heap} {kind : Kind} {fields : List Content} {root start : Address}
    (held : Holds heap (.record kind fields) (.pointer (some root)) start) :
    root + 1 = start + (Content.record kind fields).cells := by
  cases held
  rw [Content.cells, Nat.add_comm 1, Nat.add_assoc]

/-- The root of a new image is its last cell. -/
theorem Heap.store_root (heap : Heap) (result : Tree.ParseResult) :
    (heap.store result).1 + 1 = heap.blocks.size + result.cells := by
  have held := Heap.holds_store (KeptIn.refl (heap.store result).2)
  rw [← result.content_cells]
  cases result <;> exact held.root_eq

theorem Heap.extent_store (heap : Heap) (result : Tree.ParseResult) :
    extent (heap.store result).1 result.cells = List.range' heap.blocks.size result.cells := by
  rw [extent, heap.store_root, Nat.add_sub_cancel]

/-- A new image is there. Its cells were made in the innermost scope. -/
theorem Heap.kept_store (heap : Heap) (result : Tree.ParseResult) :
    Kept (heap.store result).2 (heap.store result).1 result.cells heap.innermost? false where
  room := by
    have some : 0 < result.cells := by
      rw [← result.content_cells]
      cases result <;> exact Nat.add_pos_left Nat.one_pos _
    exact ⟨some, heap.store_root result ▸ Nat.le_add_left _ _⟩
  walk := by
    obtain ⟨given, found, listed⟩ := heap.walk_store result
    rw [result.content_cells] at listed
    rw [heap.store_root, Nat.add_sub_cancel]
    exact ⟨given, found, listed⟩
  blocks address member := by
    rw [heap.extent_store] at member
    obtain ⟨cell, found⟩ := store_block?_of_mem member
    exact ⟨heap.freshBlock cell, found, rfl, rfl, rfl⟩

theorem Heap.Settled.store {heap : Heap} (settled : heap.Settled) (result : Tree.ParseResult) :
    (heap.store result).2.Settled := by
  obtain ⟨cells, -, stored⟩ := heap.store_allocates result
  rw [stored]
  exact settled.allocateAll cells

namespace Kept

variable {heap later : Heap} {root : Address} {count : Nat} {scope : Option Nat}
  {released : Bool}

/-! ### Giving back an image -/

/-- Either all cells of an image are outstanding in a scope or none of them is. -/
theorem owes_eq (kept : Kept heap root count scope released) (number : Nat) {address : Address}
    (member : address ∈ extent root count) :
    heap.owes number address = (decide (scope = some number) && !released) := by
  obtain ⟨block, found, -, rfl, rfl⟩ := kept.blocks address member
  rw [Heap.owes, found]
  rfl

theorem settled_release (kept : Kept heap root count scope released) (settled : heap.Settled)
    (done : heap.release (some root) = .ok later) : later.Settled := by
  obtain ⟨given, found, listed⟩ := kept.walk
  rw [Heap.release_eq_giveBackAll found listed.nodup] at done
  exact settled.giveBackAll done

/-- Giving back an image in a scope counts all its cells as released if the scope made them and did
not have them back yet, and all as invalid otherwise. No other block changes. -/
theorem release_scoped {current : Scope} {outer : List Scope}
    (kept : Kept heap root count scope released) (opened : heap.scopes = current :: outer) :
    ∃ later, heap.release (some root) = .ok later ∧
      later.scopes = (if scope = some current.number ∧ released = false then
          Heap.settle current count 0 else Heap.settle current 0 count) :: outer ∧
      later.nextScope = heap.nextScope ∧ later.blocks.size = heap.blocks.size ∧
      Kept later root count scope (released || decide (scope = some current.number)) ∧
      ∀ address ∉ extent root count, later.block? address = heap.block? address := by
  obtain ⟨given, found, listed⟩ := kept.walk
  have inside : ∀ address ∈ given.map Prod.fst, address ∈ extent root count :=
    fun address member => listed.addresses.mem_iff.mp member
  have length : (given.map Prod.fst).length = count := by rw [List.length_map, listed.length]
  have there : ∀ address ∈ given.map Prod.fst, (heap.block? address).isSome := by
    intro address member
    obtain ⟨block, blockFound, -⟩ := kept.blocks address (inside address member)
    rw [blockFound]
    rfl
  obtain ⟨later, done, givenBack⟩ := Heap.giveBackAll_scoped opened listed.nodup there
  refine ⟨later, (Heap.release_eq_giveBackAll found listed.nodup).trans done, ?_,
    givenBack.nextScope, givenBack.size, ?_, fun address outside =>
      givenBack.block?_of_notMem fun member => outside (inside address member)⟩
  · rw [givenBack.scopes]
    split
    · rename_i own
      have all : ∀ address ∈ given.map Prod.fst, heap.owes current.number address = true := by
        intro address member
        rw [kept.owes_eq _ (inside address member)]
        simp [own]
      rw [List.countP_eq_length.mpr all, List.countP_eq_zero.mpr, length]
      intro address member
      simp [all address member]
    · rename_i foreign
      have none : ∀ address ∈ given.map Prod.fst, heap.owes current.number address = false := by
        intro address member
        rw [kept.owes_eq _ (inside address member)]
        simpa using foreign
      rw [List.countP_eq_zero.mpr fun address member => by simp [none address member],
        List.countP_eq_length.mpr, length]
      intro address member
      simp [none address member]
  · refine kept.of_cells (Nat.le_of_eq givenBack.size.symm)
      (fun address => .inl (givenBack.cell? address)) fun address member => ?_
    have owes := kept.owes_eq current.number member
    obtain ⟨block, blockFound, layout, made, given⟩ := kept.blocks address member
    rw [givenBack.block?, blockFound, owes]
    by_cases own : scope = some current.number ∧ released = false
    · refine ⟨Heap.markReleased block, ?_, layout, made, ?_⟩
      · rw [if_pos ⟨listed.addresses.mem_iff.mpr member, by simp [own]⟩]
        rfl
      · simp [Heap.markReleased, own.1]
    · refine ⟨block, if_neg fun both => own (by simpa using both.2), layout, made, ?_⟩
      cases released
      · have foreign : scope ≠ some current.number := fun same => own ⟨same, rfl⟩
        simpa [foreign] using given
      · simpa using given

/-- Giving back an image without a scope takes all its cells away and leaves the others. -/
theorem release_unscoped (kept : Kept heap root count scope released)
    (unscoped : heap.scopes = []) :
    ∃ later, heap.release (some root) = .ok later ∧ later.scopes = [] ∧
      later.nextScope = heap.nextScope ∧ later.blocks.size = heap.blocks.size ∧
      later.cell? root = none ∧
      ∀ address ∉ extent root count, later.block? address = heap.block? address := by
  obtain ⟨given, found, listed⟩ := kept.walk
  have made : ∀ entry ∈ given, (heap.block? entry.1).map (·.layout) = some entry.2 := by
    intro entry member
    have layout := listed.layouts entry member
    obtain ⟨block, blockFound, same, -⟩ :=
      kept.blocks entry.1 (listed.addresses.mem_iff.mp (List.mem_map_of_mem member))
    rw [Heap.cell?, blockFound] at layout
    rw [blockFound, Option.map_some, same]
    exact layout
  obtain ⟨later, done, scopes, next, size, blocks⟩ :=
    Heap.giveBackAll_unscoped unscoped listed.nodup made
  refine ⟨later, (Heap.release_eq_giveBackAll found listed.nodup).trans done, scopes, next, size,
    ?_, fun address outside => ?_⟩
  · rw [Heap.cell?, blocks, if_pos (listed.addresses.mem_iff.mpr kept.room.root_mem)]
    rfl
  · rw [blocks, if_neg fun member => outside (listed.addresses.mem_iff.mp member)]

/-! ### Opening and closing scopes -/

/-- The next scope has made no image yet. -/
theorem scope_ne_nextScope (kept : Kept heap root count scope released)
    (settled : heap.Settled) : scope ≠ some heap.nextScope := by
  intro made
  obtain ⟨block, found, -, rfl, -⟩ := kept.blocks root kept.room.root_mem
  exact Nat.lt_irrefl _ (settled.known block (Heap.mem_blocks_of_block? found) _ made)

theorem openScope (kept : Kept heap root count scope released) :
    Kept heap.openScope root count scope released :=
  kept.of_blocks (Nat.le_refl _) fun _ _ => rfl

end Kept

theorem Heap.closeScope_block? {heap : Heap} {current : Scope} {outer : List Scope}
    (opened : heap.scopes = current :: outer) (address : Address) :
    heap.closeScope.2.block? address = Heap.afterScope current.number (heap.block? address) := by
  rw [Heap.closeScope, opened]
  simp only [Heap.block?, Array.getElem?_map]
  cases heap.blocks[address]? <;> rfl

theorem Heap.closeScope_scopes {heap : Heap} {current : Scope} {outer : List Scope}
    (opened : heap.scopes = current :: outer) : heap.closeScope.2.scopes = outer := by
  rw [Heap.closeScope, opened]

theorem Heap.closeScope_size {heap : Heap} {current : Scope} {outer : List Scope}
    (opened : heap.scopes = current :: outer) :
    heap.closeScope.2.blocks.size = heap.blocks.size := by
  rw [Heap.closeScope, opened]
  exact Array.size_map

namespace Kept

variable {heap : Heap} {root : Address} {count : Nat} {scope : Option Nat} {released : Bool}
  {current : Scope} {outer : List Scope}

/-- An image that the closing scope did not both make and have back stays. -/
theorem closeScope (kept : Kept heap root count scope released)
    (opened : heap.scopes = current :: outer)
    (stays : ¬(scope = some current.number ∧ released = true)) :
    Kept heap.closeScope.2 root count scope released := by
  refine kept.of_blocks (Nat.le_of_eq (Heap.closeScope_size opened).symm) fun address member => ?_
  obtain ⟨block, found, -, rfl, rfl⟩ := kept.blocks address member
  rw [Heap.closeScope_block? opened, found, Heap.afterScope, Option.filter_some, if_pos]
  simpa [Decidable.imp_iff_not_or] using stays

/-- An image that the closing scope made and had back is gone. -/
theorem closeScope_gone (kept : Kept heap root count scope released)
    (opened : heap.scopes = current :: outer) (made : scope = some current.number)
    (given : released = true) : heap.closeScope.2.cell? root = none := by
  obtain ⟨block, found, -, rfl, rfl⟩ := kept.blocks root kept.room.root_mem
  rw [Heap.cell?, Heap.closeScope_block? opened, found, Heap.afterScope, Option.filter_some,
    if_neg]
  · rfl
  · simp [made, given]

end Kept

end SqlImage.Image
