/-
This file finds out what an image says by following its pointers. A record is
taken for the kind that its pointer is meant for. A statement is taken for a
select if its tag says so, and otherwise only its first fields are looked at.
Every pointer leads to an older cell, save that a text may be newer than the
record it was put into, so no way from the root is longer than the number of
addresses.
-/

import SqlImage.Image.Heap

namespace SqlImage.Image

/-- The kind that a record is seen as through a pointer meant for `kind`. -/
def Kind.seen (kind : Kind) (slots : List Slot) : Kind :=
  match kind, slots with
  | .statement, .tag ordinal :: _ =>
    match Routine.ofOrdinal ordinal with
    | .select => .select
    | .baseOnly => .statement
  | kind, _ => kind

/-- Whether a record of the kind `actual` may be seen as one of the kind `seen`: a select begins
like any statement. -/
def Kind.mayBeSeen (actual seen : Kind) : Bool :=
  actual = seen || (actual = .select && seen = .statement)

/-- The slots of the record at an address, and the kind it is seen as. -/
def Heap.record? (heap : Heap) (kind : Kind) (address : Address) : Option (Kind × List Slot) :=
  match heap.cell? address with
  | some (.record actual slots) =>
    let seen := kind.seen slots
    if actual.mayBeSeen seen then some (seen, slots) else none
  | _ => none

/-- The pointers of an array, as many as a sequence counts. If it counts none, the array is not
looked at. -/
def Heap.array? (heap : Heap) (address : Address) (count : Nat) :
    Option (List (Option Address)) :=
  if count = 0 then some [] else
    match heap.cell? address with
    | some (.array pointers) =>
      if count ≤ pointers.length then some (pointers.take count) else none
    | _ => none

/-- The text at an address. -/
def Heap.text? (heap : Heap) (address : Address) : Option String :=
  match heap.cell? address with
  | some (.text value) => some value
  | _ => none

section Load

variable (heap : Heap) (loadRecord : Kind → Address → Option Content)

/-- What a pointer leads to, if records can be loaded. -/
def loadPointer (target : Target) : Option Address → Option Content
  | none => some .absent
  | some address =>
    match target with
    | .text => (heap.text? address).map .text
    | .node kind => loadRecord kind address

/-- What a slot says, if records can be loaded. A slot of another type than its field says
nothing. -/
def loadSlot : FieldType → Slot → Option Content
  | .tag, .tag ordinal => some (.tag ordinal)
  | .flag, .flag value => some (.flag value)
  | .place, .place value => some (.place value)
  | .int, .int value => some (.int value)
  | .size, .size value => some (.size value)
  | .double, .double value => some (.double value)
  | .pointer target, .pointer address => loadPointer heap loadRecord target address
  | .sequence _, .sequence .absent _ => some .noList
  | .sequence _, .sequence .empty _ => some (.list [])
  | .sequence target, .sequence (.array address) count => do
    let pointers ← heap.array? address count
    return .list (← pointers.mapM (loadPointer heap loadRecord target))
  | _, _ => none

/-- What the slots of a record say, if records can be loaded. -/
def loadSlots : List Field → List Slot → Option (List Content)
  | field :: fields, slot :: slots => do
    let first ← loadSlot heap loadRecord field.type slot
    return first :: (← loadSlots fields slots)
  | [], _ => some []
  | _ :: _, [] => none

end Load

/-- What the record at an address says, through pointers in a row of at most `fuel`. -/
def Heap.loadRecord (heap : Heap) : (fuel : Nat) → Kind → Address → Option Content
  | 0, _, _ => none
  | fuel + 1, kind, address => do
    let (seen, slots) ← heap.record? kind address
    return .record seen (← loadSlots heap (heap.loadRecord fuel) seen.fields slots)

/-- What the image of a result says, or nothing if memory that it needs is gone. -/
def Heap.load (heap : Heap) (root : Address) : Option Content :=
  heap.loadRecord (heap.blocks.size + 1) .result root

end SqlImage.Image
