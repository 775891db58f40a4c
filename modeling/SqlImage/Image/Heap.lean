/-
This file holds the memory in which images are kept, and the ledger over it. A
cell is a text, an array of pointers or a record, and its address is never used
again after it is given back. While a scope is open, a cell given back stays
readable: the scope counts it, and the cells that were made and given back in the
scope go away when the scope closes. A cell given back twice, or in another scope
than the one that made it, counts as invalid and stays as it is. Without an open
scope a cell goes away at once, and only if it is given back as what it is.
-/

import SqlImage.Image.Content

namespace SqlImage.Image

/-! ### Cells -/

/-- The place of a cell. -/
abbrev Address := Nat

/-- Where the elements of a sequence are. A sequence without elements takes no cell, and is
there all the same. -/
inductive Elements where
  | absent
  | empty
  | array (address : Address)
deriving DecidableEq, Repr

/-- What a record holds in one field. -/
inductive Slot where
  | tag (ordinal : UInt32)
  | flag (value : Bool)
  | place (value : Int32)
  | int (value : Int64)
  | size (value : UInt64)
  | double (value : Double)
  | pointer (address : Option Address)
  | sequence (elements : Elements) (count : Nat)
deriving DecidableEq, Repr

/-- What is kept at one address. -/
inductive Cell where
  | text (value : String)
  | array (pointers : List (Option Address))
  | record (kind : Kind) (slots : List Slot)
deriving DecidableEq, Repr

/-- How much memory a cell takes, and for what: a record of a kind, a number of pointers, or a
number of bytes of text with the zero that ends it. -/
inductive Layout where
  | record (kind : Kind)
  | array (length : Nat)
  | text (size : Nat)
deriving DecidableEq, Repr

/-- The layout that a text is given back with, found by looking for the zero that ends it. -/
def Layout.ofText (value : String) : Layout := .text ((cutAtZero value).utf8ByteSize + 1)

/-- The layout of a cell when it is made. -/
def Cell.layout : Cell → Layout
  | .text value => .text (value.utf8ByteSize + 1)
  | .array pointers => .array pointers.length
  | .record kind _ => .record kind

/-! ### Scopes -/

/-- A cell together with what the ledger knows of it: the layout it was made with, the scope it
was made in, and whether it was given back there. -/
structure Block where
  cell : Cell
  layout : Layout
  scope : Option Nat
  released : Bool
deriving DecidableEq, Repr

/-- An open scope and what it has counted. -/
structure Scope where
  number : Nat
  allocations : Nat
  releases : Nat
  invalidReleases : Nat
deriving DecidableEq, Repr

/-- What a scope reports when it closes. -/
structure Report where
  allocations : Nat
  releases : Nat
  outstanding : Nat
  invalidReleases : Nat
deriving DecidableEq, Repr

/-- Whether everything that was made was given back, and nothing else. -/
def Report.isBalanced (report : Report) : Bool :=
  report.outstanding = 0 && report.invalidReleases = 0 && report.allocations = report.releases

/-- The memory: what is kept at each address so far, the open scopes from the innermost one
outwards, and the number for the next scope. -/
structure Heap where
  blocks : Array (Option Block)
  scopes : List Scope
  nextScope : Nat

/-- What must not happen to memory: a cell that is gone, or a cell taken for something else. -/
inductive Fault where
  | gone (address : Address)
  | mistaken (address : Address)
deriving DecidableEq, Repr

namespace Heap

/-- The memory before anything is kept. -/
def empty : Heap := ⟨#[], [], 0⟩

/-- The block at an address, unless there is none any more. -/
def block? (heap : Heap) (address : Address) : Option Block := (heap.blocks[address]?).join

/-- The cell at an address, unless there is none any more. -/
def cell? (heap : Heap) (address : Address) : Option Cell := (heap.block? address).map (·.cell)

/-- The number of the innermost scope. -/
def innermost? (heap : Heap) : Option Nat := heap.scopes.head?.map (·.number)

/-- The same memory after the innermost scope, if one is open, has counted something. -/
def count (heap : Heap) (change : Scope → Scope) : Heap :=
  match heap.scopes with
  | [] => heap
  | scope :: outer => { heap with scopes := change scope :: outer }

/-- Keeps a cell at a new address. The innermost scope counts it. -/
def allocate (heap : Heap) (cell : Cell) : Address × Heap :=
  let address := heap.blocks.size
  let block : Block := ⟨cell, cell.layout, heap.innermost?, false⟩
  let kept := { heap with blocks := heap.blocks.push (some block) }
  (address, kept.count fun scope => { scope with allocations := scope.allocations + 1 })

/-- Puts another cell in the place of one that is there. -/
def replace (heap : Heap) (address : Address) (cell : Cell) : Heap :=
  match heap.block? address with
  | none => heap
  | some block =>
    { heap with blocks := heap.blocks.setIfInBounds address (some { block with cell }) }

/-- Gives back one cell as something of the given layout. -/
def giveBack (heap : Heap) (address : Address) (layout : Layout) : Except Fault Heap :=
  match heap.block? address with
  | none => .error (.gone address)
  | some block =>
    match heap.scopes with
    | [] =>
      if block.layout = layout then
        .ok { heap with blocks := heap.blocks.setIfInBounds address none }
      else .error (.mistaken address)
    | scope :: outer =>
      if block.scope = some scope.number ∧ block.released = false then
        .ok { heap with
          blocks := heap.blocks.setIfInBounds address (some { block with released := true })
          scopes := { scope with releases := scope.releases + 1 } :: outer }
      else
        .ok { heap with
          scopes := { scope with invalidReleases := scope.invalidReleases + 1 } :: outer }

/-- Opens a scope inside those that are open. -/
def openScope (heap : Heap) : Heap :=
  { heap with
    scopes := ⟨heap.nextScope, 0, 0, 0⟩ :: heap.scopes
    nextScope := heap.nextScope + 1 }

/-- Whether a block was made in a scope and not given back there. -/
def isOutstanding (number : Nat) (block : Option Block) : Bool :=
  block.any fun block => block.scope = some number && !block.released

/-- What is kept in place of a block once a scope has closed. -/
def afterScope (number : Nat) (block : Option Block) : Option Block :=
  block.filter fun block => !(block.scope = some number && block.released)

/-- Closes the innermost scope. The cells made and given back in it go away. -/
def closeScope (heap : Heap) : Report × Heap :=
  match heap.scopes with
  | [] => (⟨0, 0, 0, 0⟩, heap)
  | scope :: outer =>
    (⟨scope.allocations, scope.releases, heap.blocks.countP (isOutstanding scope.number),
        scope.invalidReleases⟩,
      { heap with blocks := heap.blocks.map (afterScope scope.number), scopes := outer })

end Heap

end SqlImage.Image
