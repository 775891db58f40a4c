/-
This file overwrites one field or one array element of an image. The place is
given by a path from the root: names of fields, and after a sequence the position
of an element. The new value has to fit the type of the place: any number for a
tag, a flag, a number, no pointer at all, a fresh text, or a smaller count.
Nothing that the old value led to is given back.
-/

import SqlImage.Image.Load

namespace SqlImage.Image

/-- A step of a path: a field by its name, or an element by its position. -/
inductive Key where
  | field (name : String)
  | element (position : Nat)
  /-- A step that is neither. -/
  | unfit
deriving DecidableEq, Repr

/-- A new value. -/
inductive Patch where
  | null
  | flag (value : Bool)
  | integer (value : Int)
  | text (value : String)
  /-- A value that fits no place. -/
  | unfit
deriving DecidableEq, Repr

/-- Why nothing is overwritten. -/
inductive PokeFault where
  /-- The path leads nowhere. -/
  | badPath
  /-- The value does not fit the place. -/
  | badValue
  /-- A statement laid out by its base would have to pass for a select. -/
  | refused
deriving DecidableEq, Repr

/-- A place in an image: a field of a record that is seen as a kind, or an element of an
array. -/
inductive Spot where
  | slot (record : Address) (seen : Kind) (position : Nat) (field : Field)
  | element (array : Address) (position : Nat) (target : Target)
deriving DecidableEq, Repr

/-- The place that a path leads to, from a record that a pointer of the given kind leads to. -/
def Heap.spot? (heap : Heap) : Kind → Address → List Key → Option Spot
  | _, _, [] => none
  | kind, address, [.field name] => do
    let (seen, _) ← heap.record? kind address
    let (position, field) ← seen.field? name
    return .slot address seen position field
  | kind, address, .field name :: .element position :: rest => do
    let (seen, slots) ← heap.record? kind address
    let (fieldPosition, field) ← seen.field? name
    match field.type, slots[fieldPosition]? with
    | .sequence target, some (.sequence (.array array) count) =>
      let pointers ← heap.array? array count
      let pointer ← pointers[position]?
      match rest, target, pointer with
      | [], _, _ => return .element array position target
      | _, .node kind, some next => heap.spot? kind next rest
      | _, _, _ => none
    | _, _ => none
  | kind, address, .field name :: rest => do
    let (seen, slots) ← heap.record? kind address
    let (fieldPosition, field) ← seen.field? name
    match field.type, slots[fieldPosition]? with
    | .pointer (.node kind), some (.pointer (some next)) => heap.spot? kind next rest
    | _, _ => none
  | _, _, _ => none

/-- Whether an integer lies in the range of signed integers of 64 bits. -/
def isSigned (value : Int) : Bool := Int64.minValue.toInt ≤ value && value ≤ Int64.maxValue.toInt

/-- Whether an integer lies in the range of unsigned integers of 64 bits. -/
def isUnsigned (value : Int) : Bool := 0 ≤ value && value < Int.ofNat UInt64.size

/-- The slot that takes the place of another one of the given type, and the memory with a fresh
text in it if one is needed. A tag takes the lowest 32 bits of a number. A sequence that is absent
takes no count. -/
def patchedSlot (heap : Heap) : FieldType → Slot → Patch → Except PokeFault (Slot × Heap)
  | .tag, _, .integer value =>
    if isUnsigned value then .ok (.tag (UInt32.ofNat value.toNat), heap) else .error .badValue
  | .flag, _, .flag value => .ok (.flag value, heap)
  | .place, _, .integer value =>
    if isSigned value then .ok (.place (Int32.ofInt value), heap) else .error .badValue
  | .int, _, .integer value =>
    if isSigned value then .ok (.int (Int64.ofInt value), heap) else .error .badValue
  | .size, _, .integer value =>
    if isUnsigned value then .ok (.size (UInt64.ofNat value.toNat), heap) else .error .badValue
  | .double, _, .integer value =>
    if isUnsigned value then .ok (.double ⟨UInt64.ofNat value.toNat⟩, heap) else .error .badValue
  | .pointer _, _, .null => .ok (.pointer none, heap)
  | .pointer .text, _, .text value =>
    let (address, heap) := heap.allocate (.text (cutAtZero value))
    .ok (.pointer (some address), heap)
  | .sequence _, .sequence _ count, .null => .ok (.sequence .absent count, heap)
  | .sequence _, .sequence .absent _, .integer _ => .error .badValue
  | .sequence _, .sequence elements count, .integer value =>
    if 0 ≤ value ∧ value ≤ count then .ok (.sequence elements value.toNat, heap)
    else .error .badValue
  | _, _, _ => .error .badValue

/-- The pointer that takes the place of another one in an array, and the memory with a fresh text
in it if one is needed. -/
def patchedPointer (heap : Heap) : Target → Patch → Except PokeFault (Option Address × Heap)
  | _, .null => .ok (none, heap)
  | .text, .text value =>
    let (address, heap) := heap.allocate (.text (cutAtZero value))
    .ok (some address, heap)
  | _, _ => .error .badValue

/-- Whether a new slot would make a bare statement pass for a select. The tag is the first field
of a statement, and a statement is seen by its base unless it is tagged as a select already. -/
def wouldPromote (seen : Kind) (position : Nat) (slot : Slot) : Bool :=
  seen = .statement && position = 0 && Kind.statement.seen [slot] = .select

/-- Overwrites the place that a path leads to. -/
def Heap.poke (heap : Heap) (root : Address) (path : List Key) (patch : Patch) :
    Except PokeFault Heap :=
  match heap.spot? .result root path with
  | none => .error .badPath
  | some (.slot address seen position field) =>
    match heap.cell? address with
    | some (.record actual slots) =>
      match slots[position]? with
      | none => .error .badPath
      | some slot =>
        match patchedSlot heap field.type slot patch with
        | .error fault => .error fault
        | .ok (slot, heap) =>
          if wouldPromote seen position slot then .error .refused
          else .ok (heap.replace address (.record actual (slots.set position slot)))
    | _ => .error .badPath
  | some (.element address position target) =>
    match heap.cell? address with
    | some (.array pointers) =>
      match patchedPointer heap target patch with
      | .error fault => .error fault
      | .ok (pointer, heap) =>
        .ok (heap.replace address (.array (pointers.set position pointer)))
    | _ => .error .badPath

end SqlImage.Image
