/-
This file builds the image of a content in memory. What a record or an array
leads to is kept before the record or the array itself, so every pointer leads to
an older cell. A text and a record take one cell each, and a list takes one cell
unless it has no element.
-/

import SqlImage.Image.Heap

namespace SqlImage.Image

/-- The pointer in a slot. -/
def Slot.target? : Slot → Option Address
  | .pointer address => address
  | _ => none

mutual

/-- Keeps a content, and gives what a field with this content holds. -/
def Content.store : Content → Heap → Slot × Heap
  | .tag ordinal, heap => (.tag ordinal, heap)
  | .flag value, heap => (.flag value, heap)
  | .place value, heap => (.place value, heap)
  | .int value, heap => (.int value, heap)
  | .size value, heap => (.size value, heap)
  | .double value, heap => (.double value, heap)
  | .absent, heap => (.pointer none, heap)
  | .text value, heap =>
    let (address, heap) := heap.allocate (.text value)
    (.pointer (some address), heap)
  | .record kind fields, heap =>
    let (slots, heap) := storeAll fields heap
    let (address, heap) := heap.allocate (.record kind slots)
    (.pointer (some address), heap)
  | .noList, heap => (.sequence .absent 0, heap)
  | .list [], heap => (.sequence .empty 0, heap)
  | .list (head :: tail), heap =>
    let (first, heap) := head.store heap
    let (others, heap) := storeAll tail heap
    let (address, heap) := heap.allocate (.array ((first :: others).map Slot.target?))
    (.sequence (.array address) (others.length + 1), heap)

/-- Keeps several contents one after the other. -/
def storeAll : List Content → Heap → List Slot × Heap
  | [], heap => ([], heap)
  | head :: tail, heap =>
    let (slot, heap) := head.store heap
    let (slots, heap) := storeAll tail heap
    (slot :: slots, heap)

end

/-- Builds the image of a result, and gives the address of its root. -/
def Heap.store (heap : Heap) (result : Tree.ParseResult) : Address × Heap :=
  let (slot, heap) := result.content.store heap
  (slot.target?.getD 0, heap)

end SqlImage.Image
