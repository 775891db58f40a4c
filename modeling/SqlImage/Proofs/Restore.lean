/-
This file says what becomes of memory when an image is made and given back at once
without a scope: it is again what it was. The cells that are given back are those
that the image takes, each of them is given back once and as what it was made as,
and none is looked at once it is gone. What an address is used for is the only
trace, since no address is used again.
-/

import SqlImage.Proofs.Listing
import SqlImage.Proofs.Size

namespace SqlImage.Image

namespace Heap

/-! ### The memory after an image was kept -/

theorem store_allocates (heap : Heap) (result : Tree.ParseResult) :
    ∃ cells, cells.length = result.cells ∧ (heap.store result).2 = heap.allocateAll cells := by
  obtain ⟨cells, length, stored⟩ := result.content.store_allocates heap
  exact ⟨cells, length.trans result.content_cells, stored⟩

/-- The cells of a new image were made as what they are. -/
theorem store_layout {heap : Heap} {result : Tree.ParseResult} {address : Address}
    (newer : heap.blocks.size ≤ address) :
    ((heap.store result).2.block? address).map (·.layout) =
      ((heap.store result).2.cell? address).map Cell.layout := by
  obtain ⟨cells, -, stored⟩ := heap.store_allocates result
  rw [cell?, stored, heap.allocateAll_block?_of_le cells newer, Option.map_map, Option.map_map,
    Option.map_map]
  rfl

theorem store_block?_of_lt {heap : Heap} {result : Tree.ParseResult} {address : Address}
    (older : address < heap.blocks.size) :
    (heap.store result).2.block? address = heap.block? address := by
  obtain ⟨cells, -, stored⟩ := heap.store_allocates result
  rw [stored, heap.allocateAll_block?_of_lt cells older]

/-- A new image takes the addresses behind the older ones, one for each of its cells. -/
theorem store_block?_of_mem {heap : Heap} {result : Tree.ParseResult} {address : Address}
    (inside : address ∈ List.range' heap.blocks.size result.cells) :
    ∃ cell, (heap.store result).2.block? address = some (heap.freshBlock cell) := by
  obtain ⟨cells, length, stored⟩ := heap.store_allocates result
  obtain ⟨newer, bound⟩ := List.mem_range'_1.mp inside
  have position : address - heap.blocks.size < cells.length :=
    Nat.sub_lt_left_of_lt_add newer (length ▸ bound)
  refine ⟨cells[address - heap.blocks.size], ?_⟩
  rw [stored, heap.allocateAll_block?_of_le cells newer, List.getElem?_eq_getElem position]
  rfl

theorem store_scopes (heap : Heap) (result : Tree.ParseResult) :
    (heap.store result).2.scopes = heap.scopes.modifyHead fun scope =>
      { scope with allocations := scope.allocations + result.cells } := by
  obtain ⟨cells, length, stored⟩ := heap.store_allocates result
  rw [stored, heap.allocateAll_scopes, length]

theorem store_nextScope (heap : Heap) (result : Tree.ParseResult) :
    (heap.store result).2.nextScope = heap.nextScope := by
  obtain ⟨cells, -, stored⟩ := heap.store_allocates result
  rw [stored, heap.allocateAll_nextScope]

/-- The same memory with addresses that nothing is kept at any more. -/
def withGone (heap : Heap) (count : Nat) : Heap :=
  { heap with blocks := heap.blocks ++ Array.replicate count none }

theorem block?_withGone (heap : Heap) (count : Nat) (address : Address) :
    (heap.withGone count).block? address = heap.block? address := by
  by_cases older : address < heap.blocks.size
  · simp only [block?, withGone, Array.getElem?_append_left older]
  · have newer := Nat.le_of_not_lt older
    rw [block?_eq_none_of_size_le heap address newer]
    simp only [block?, withGone, Array.getElem?_append_right newer, Array.getElem?_replicate]
    split <;> rfl

/-- A memory that has nothing where the image was kept, and is otherwise as it was, is the one from
before the image was made. -/
theorem eq_withGone {heap later : Heap} {result : Tree.ParseResult}
    (size : later.blocks.size = heap.blocks.size + result.cells)
    (blocks : ∀ address, later.block? address =
      if address ∈ List.range' heap.blocks.size result.cells then none
      else (heap.store result).2.block? address)
    (scopes : later.scopes = heap.scopes) (next : later.nextScope = heap.nextScope) :
    later = heap.withGone result.cells := by
  refine ext_of_block? ?_ (fun address => ?_) scopes next
  · rw [size, withGone, Array.size_append, Array.size_replicate]
  · rw [block?_withGone]
    by_cases older : address < heap.blocks.size
    · have outside : address ∉ List.range' heap.blocks.size result.cells := fun inside =>
        Nat.not_lt_of_le (List.mem_range'_1.mp inside).1 older
      rw [blocks, if_neg outside, store_block?_of_lt older]
    · have newer : heap.blocks.size ≤ address := Nat.le_of_not_lt older
      rw [block?_eq_none_of_size_le heap address newer]
      by_cases inside : address ∈ List.range' heap.blocks.size result.cells
      · rw [blocks, if_pos inside]
      · refine block?_eq_none_of_size_le _ _ (Nat.le_of_not_lt fun bound => inside ?_)
        exact List.mem_range'_1.mpr ⟨newer, size ▸ bound⟩

/-! ### Giving back -/

/-- Without a scope, what is given back later is untouched until then. -/
theorem giveBackAll_untouched {heap : Heap} {before after : List (Address × Layout)}
    (unscoped : heap.scopes = []) (distinct : ((before ++ after).map Prod.fst).Nodup)
    (made : ∀ entry ∈ before ++ after, (heap.block? entry.1).map (·.layout) = some entry.2) :
    ∃ between, giveBackAll before heap = .ok between ∧
      ∀ entry ∈ after, between.block? entry.1 = heap.block? entry.1 := by
  rw [List.map_append, List.nodup_append'] at distinct
  obtain ⟨between, partly, -⟩ := giveBackAll_unscoped unscoped distinct.1
    fun entry member => made entry (List.mem_append_left _ member)
  refine ⟨between, partly, fun entry member => giveBackAll_block?_of_notMem partly ?_⟩
  exact fun other => distinct.2.2 other (List.mem_map_of_mem member)

/-- What giving back an image of some cells, which was made in `heap` without a scope, comes to.
`given` are the cells that are given back, each with what it is given back as. -/
structure Restores (heap stored : Heap) (root : Address) (count : Nat)
    (given : List (Address × Layout)) : Prop where
  /-- The image takes the addresses behind those of older cells. -/
  size : stored.blocks.size = heap.blocks.size + count
  /-- The walk over the image comes by the cells in this order. -/
  walk : stored.walk root = some given
  /-- They are the cells of the image, each of them once. -/
  once : (given.map Prod.fst).Perm (List.range' heap.blocks.size count)
  /-- Each is given back as what it was made as. -/
  asMade : ∀ entry ∈ given, (stored.block? entry.1).map (·.layout) = some entry.2
  /-- Each is there, as it was made, until it is its turn. -/
  untouched : ∀ before after, given = before ++ after →
    ∃ between, giveBackAll before stored = .ok between ∧
      ∀ entry ∈ after, between.block? entry.1 = stored.block? entry.1
  /-- Nothing else is given back. -/
  release : stored.release (some root) = giveBackAll given stored
  /-- Nothing fails, as it would if a cell were looked at or given back once it is gone, and
  afterwards the memory is what it was. -/
  restored : stored.release (some root) = .ok (heap.withGone count)

/-- An image that is given back without a scope leaves memory as it was before the image was
made. -/
theorem release_store_restores (heap : Heap) (result : Tree.ParseResult)
    (unscoped : heap.scopes = []) :
    ∃ given, Restores heap (heap.store result).2 (heap.store result).1 result.cells given ∧
      ∀ address, (heap.withGone result.cells).block? address = heap.block? address := by
  obtain ⟨given, walk, listed⟩ := heap.walk_store result
  rw [result.content_cells] at listed
  have size : (heap.store result).2.blocks.size = heap.blocks.size + result.cells := by
    rw [size_store, result.content_cells]
  have asMade : ∀ entry ∈ given,
      ((heap.store result).2.block? entry.1).map (·.layout) = some entry.2 := by
    intro entry member
    have inside := listed.mem_iff.mp (List.mem_map_of_mem member)
    rw [store_layout inside.1, listed.layouts entry member]
  have storedUnscoped : (heap.store result).2.scopes = [] := by
    rw [store_scopes, unscoped]
    rfl
  have release := release_eq_giveBackAll walk listed.nodup
  obtain ⟨later, done, scopes, next, laterSize, blocks⟩ :=
    giveBackAll_unscoped storedUnscoped listed.nodup asMade
  have restored : later = heap.withGone result.cells := by
    refine eq_withGone (laterSize.trans size) (fun address => ?_) (scopes.trans unscoped.symm)
      (next.trans (heap.store_nextScope result))
    rw [blocks]
    exact if_congr listed.addresses.mem_iff rfl rfl
  have untouched : ∀ before after, given = before ++ after →
      ∃ between, giveBackAll before (heap.store result).2 = .ok between ∧
        ∀ entry ∈ after, between.block? entry.1 = (heap.store result).2.block? entry.1 := by
    rintro before after rfl
    exact giveBackAll_untouched storedUnscoped listed.nodup asMade
  exact ⟨given, ⟨size, walk, listed.addresses, asMade, untouched, release,
    release.trans (restored ▸ done)⟩, heap.block?_withGone result.cells⟩

/-- The image of a select of one text from two tables is made behind an older text and given back
at once. -/
theorem release_store_restores_select :
    let older := (empty.allocate (.text "older")).2
    let tables := Tree.TableRef.crossProduct [.named none "first", .named none "second"]
    let result : Tree.ParseResult := .valid [.select { Tree.Select.empty with
      fromTable := some tables, selectList := some [.literalString "text"] }]
    older.scopes = [] ∧ result.cells = 12 ∧
      ∃ given, Restores older (older.store result).2 (older.store result).1 result.cells given ∧
        ∀ address, (older.withGone result.cells).block? address = older.block? address :=
  ⟨rfl, rfl, release_store_restores _ _ rfl⟩

end Heap

end SqlImage.Image
