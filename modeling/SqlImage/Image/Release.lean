/-
This file gives an image back. What a record or an array leads to is given back
before the record or the array itself, and nothing is looked at after it is given
back. Every kind of record lists what it gives back, and in which order. The
pointers are followed as they are when the image is read: a statement that is not
tagged as a select is given back by its base alone, and a sequence by as many
elements as it counts.
-/

import SqlImage.Image.Load

namespace SqlImage.Image

namespace Kind

/-- The fields of a record of a kind that lead to something, in the order in which they are given
back. -/
def released : Kind → List String
  | .result => ["errorMsg", "statements"]
  | .statement => ["hints"]
  | .select => ["hints", "fromTable", "selectList", "whereClause", "groupBy", "setOperations",
      "order", "withDescriptions", "limit"]
  | .expr => ["expr", "expr2", "exprList", "select", "name", "table", "alias"]
  | .table => ["list", "schema", "name", "alias", "select", "join"]
  | .label => ["columns", "name"]
  | .join => ["left", "right", "condition"]
  | .groupBy => ["columns", "having"]
  | .order => ["expr"]
  | .withQuery => ["alias", "select"]
  | .limit => ["limit", "offset"]
  | .setOperation => ["nestedSelectStatement", "resultOrder", "resultLimit"]

/-- The same fields with their positions. -/
def releasedFields (kind : Kind) : List (Nat × Field) := kind.released.filterMap kind.field?

end Kind

/-- Gives back the text at an address. Its size is found from the zero that ends it. -/
def Heap.releaseText (heap : Heap) (address : Address) : Except Fault Heap :=
  match heap.cell? address with
  | some (.text value) => heap.giveBack address (.ofText value)
  | some _ => .error (.mistaken address)
  | none => .error (.gone address)

section Release

variable (releaseRecord : Kind → Address → Heap → Except Fault Heap)

/-- Gives back what a pointer leads to, if records can be given back. -/
def releasePointer (target : Target) (heap : Heap) : Option Address → Except Fault Heap
  | none => .ok heap
  | some address =>
    match target with
    | .text => heap.releaseText address
    | .node kind => releaseRecord kind address heap

/-- Gives back what several pointers lead to, one after the other. -/
def releasePointers (target : Target) : List (Option Address) → Heap → Except Fault Heap
  | [], heap => .ok heap
  | pointer :: rest, heap =>
    match releasePointer releaseRecord target heap pointer with
    | .ok heap => releasePointers target rest heap
    | .error fault => .error fault

/-- Gives back what a slot leads to, if records can be given back. A sequence without elements
has nothing to give back. -/
def releaseSlot (heap : Heap) : FieldType → Slot → Except Fault Heap
  | .pointer target, .pointer address => releasePointer releaseRecord target heap address
  | .sequence target, .sequence (.array address) count =>
    match heap.array? address count with
    | none =>
      .error (if (heap.block? address).isSome then .mistaken address else .gone address)
    | some pointers =>
      match releasePointers releaseRecord target pointers heap with
      | .error fault => .error fault
      | .ok heap => if count = 0 then .ok heap else heap.giveBack address (.array count)
  | _, _ => .ok heap

/-- Gives back what some fields of a record lead to, one after the other. -/
def releaseFields (slots : List Slot) : List (Nat × Field) → Heap → Except Fault Heap
  | [], heap => .ok heap
  | (position, field) :: rest, heap =>
    match slots[position]? with
    | none => releaseFields slots rest heap
    | some slot =>
      match releaseSlot releaseRecord heap field.type slot with
      | .ok heap => releaseFields slots rest heap
      | .error fault => .error fault

end Release

/-- Gives back a record with all that it leads to, through pointers in a row of at most
`fuel`. -/
def releaseRecord : (fuel : Nat) → Kind → Address → Heap → Except Fault Heap
  | 0, _, address, _ => .error (.gone address)
  | fuel + 1, kind, address, heap =>
    match heap.record? kind address with
    | none =>
      .error (if (heap.block? address).isSome then .mistaken address else .gone address)
    | some (seen, slots) =>
      match releaseFields (releaseRecord fuel) slots seen.releasedFields heap with
      | .ok heap => heap.giveBack address (.record seen)
      | .error fault => .error fault

/-- Gives back the image of a result. A root that leads nowhere has nothing to give back. -/
def Heap.release (heap : Heap) (root : Option Address) : Except Fault Heap :=
  match root with
  | none => .ok heap
  | some address => releaseRecord (heap.blocks.size + 1) .result address heap

end SqlImage.Image
