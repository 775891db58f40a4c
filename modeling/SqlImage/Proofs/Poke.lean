/-
This file says what overwriting does to memory that shows a figure: it overwrites the
figure, and if that fails it fails in the same way. Besides a fresh text it changes a
single cell, which is one of the figure, and that cell stays outstanding if it was.
The place is looked for in memory two steps of the path at a time where the path
goes through an array. The first thing to do is to take these steps one by one.
-/

import SqlImage.Proofs.Overwrite
import SqlImage.Proofs.Shown

namespace SqlImage.Image

/-- The cells that a new value brings along. -/
def Patch.cells : Patch → List Cell
  | .text value => [.text (cutAtZero value)]
  | _ => []

namespace Heap

/-! ### Exchanging one cell -/

section Replace

variable {heap : Heap} {address : Address} {cell : Cell}

@[simp] theorem replace_scopes (heap : Heap) (address : Address) (cell : Cell) :
    (heap.replace address cell).scopes = heap.scopes := by
  unfold replace
  split <;> rfl

@[simp] theorem replace_nextScope (heap : Heap) (address : Address) (cell : Cell) :
    (heap.replace address cell).nextScope = heap.nextScope := by
  unfold replace
  split <;> rfl

@[simp] theorem replace_size (heap : Heap) (address : Address) (cell : Cell) :
    (heap.replace address cell).blocks.size = heap.blocks.size := by
  unfold replace
  split
  · rfl
  · exact Array.size_setIfInBounds

theorem replace_block?_self (heap : Heap) (address : Address) (cell : Cell) :
    (heap.replace address cell).block? address =
      (heap.block? address).map fun block => { block with cell } := by
  unfold replace
  split
  · rename_i gone
    rw [gone]
    rfl
  · rename_i block found
    rw [block?_setIfInBounds heap address address _ (lt_size_of_block? found), if_pos rfl, found]
    rfl

theorem replace_block?_of_ne {other : Address} (different : other ≠ address) :
    (heap.replace address cell).block? other = heap.block? other := by
  unfold replace
  split
  · rfl
  · rename_i block found
    exact (block?_setIfInBounds heap address other _ (lt_size_of_block? found)).trans
      (if_neg different)

theorem replace_cell?_self {old : Cell} (there : heap.cell? address = some old) :
    (heap.replace address cell).cell? address = some cell := by
  obtain ⟨block, found, -⟩ := Option.map_eq_some_iff.mp there
  rw [cell?, replace_block?_self, found]
  rfl

theorem replace_cell?_of_ne {other : Address} (different : other ≠ address) :
    (heap.replace address cell).cell? other = heap.cell? other := by
  rw [cell?, replace_block?_of_ne different, cell?]

/-- An exchanged cell is outstanding if the old one was. -/
theorem replace_owes (heap : Heap) (address : Address) (cell : Cell) (number : Nat) :
    (heap.replace address cell).owes number = heap.owes number := by
  funext other
  by_cases same : other = address
  · rw [same, owes, replace_block?_self, owes]
    cases heap.block? address <;> rfl
  · rw [owes, replace_block?_of_ne same, owes]

theorem replace_outstanding (heap : Heap) (address : Address) (cell : Cell) (number : Nat) :
    (heap.replace address cell).outstanding number = heap.outstanding number := by
  unfold replace
  split
  · rfl
  · rename_i block found
    have inside := lt_size_of_block? found
    have there : heap.blocks[address] = some block := by
      rwa [block?, Array.getElem?_eq_getElem inside, Option.join_some] at found
    have counted := Array.boole_getElem_le_countP (p := isOutstanding number) inside
    rw [there] at counted
    rw [outstanding, Array.setIfInBounds, dif_pos inside, Array.countP_set inside, there]
    exact Nat.sub_add_cancel counted

theorem Settled.replace (settled : heap.Settled) (address : Address) (cell : Cell) :
    (heap.replace address cell).Settled where
  distinct := by rw [replace_scopes]; exact settled.distinct
  opened := by rw [replace_scopes, replace_nextScope]; exact settled.opened
  known := by
    rw [replace_nextScope]
    unfold Heap.replace
    split
    · exact settled.known
    · rename_i block found
      refine settled.known_setIfInBounds found fun other same => ?_
      cases same
      rfl
  balance scope member := by
    rw [replace_scopes] at member
    rw [replace_outstanding, settled.balance scope member]

end Replace

/-! ### Following a path step by step -/

/-- The place that a path leads to from a slot of a type. -/
def spotFrom? (heap : Heap) : FieldType → Slot → List Key → Option Spot
  | .pointer (.node kind), .pointer (some address), .field name :: rest => do
    let (seen, slots) ← heap.record? kind address
    let (position, field) ← seen.field? name
    match rest with
    | [] => return .slot address seen position field
    | next :: rest => heap.spotFrom? field.type (← slots[position]?) (next :: rest)
  | .sequence target, .sequence (.array address) count, .element position :: rest => do
    let pointers ← heap.array? address count
    let pointer ← pointers[position]?
    match rest with
    | [] => return .element address position target
    | next :: rest => heap.spotFrom? (.pointer target) (.pointer pointer) (next :: rest)
  | _, _, _ => none

/-- It makes no difference whether a path is followed step by step. -/
theorem spot?_eq_spotFrom? (heap : Heap) (kind : Kind) (address : Address) (path : List Key) :
    heap.spot? kind address path =
      heap.spotFrom? (.pointer (.node kind)) (.pointer (some address)) path := by
  fun_induction heap.spot? kind address path with
  | case1 => rfl
  | case2 kind address name => simp only [spotFrom?]
  | case3 kind address name position rest inductionHypothesis =>
    simp only [spotFrom?]
    refine Option.bind_congr fun record _ => Option.bind_congr fun place _ => ?_
    obtain ⟨seen, slots⟩ := record
    obtain ⟨fieldPosition, fieldName, type⟩ := place
    dsimp only
    cases slots[fieldPosition]? with
    | none => cases type <;> simp
    | some slot =>
      cases type with
      | sequence target =>
        cases slot with
        | sequence elements count =>
          cases elements with
          | array array =>
            simp only [spotFrom?, Option.bind_eq_bind, Option.bind_some]
            refine Option.bind_congr fun pointers _ => Option.bind_congr fun pointer _ => ?_
            cases rest with
            | nil => rfl
            | cons next rest =>
              cases target with
              | text => simp [spotFrom?]
              | node kind =>
                cases pointer with
                | none => simp [spotFrom?]
                | some address => exact inductionHypothesis kind address
          | _ => rfl
        | _ => rfl
      | _ => simp [spotFrom?]
  | case4 kind address name rest nonempty noElement inductionHypothesis =>
    obtain ⟨next, rest, rfl⟩ := List.exists_cons_of_ne_nil nonempty
    simp only [spotFrom?]
    refine Option.bind_congr fun record found => Option.bind_congr fun place named => ?_
    clear named found
    obtain ⟨seen, slots⟩ := record
    obtain ⟨fieldPosition, fieldName, type⟩ := place
    dsimp only
    cases slots[fieldPosition]? with
    | none => cases type <;> simp
    | some slot =>
      dsimp only [Option.bind_eq_bind, Option.bind_some]
      split
      · rename_i inner address same
        cases same
        exact inductionHypothesis inner address
      · rename_i noRecord
        unfold spotFrom?
        split
        · exact (noRecord _ _ rfl rfl).elim
        · cases ‹_ :: _ = _ :: _›
          exact (noElement _ _ rfl).elim
        · rfl
  | case5 path kind address nonempty noName noElement noField =>
    unfold spotFrom?
    split
    · exact (noField _ _ rfl).elim
    · cases ‹FieldType.pointer _ = FieldType.sequence _›
    · rfl

/-! ### New values -/

/-- Where no text is kept, memory plays no part. -/
theorem patchedSlot_of_plain (heap : Heap) {patch : Patch} (plain : patch.cells = [])
    (type : FieldType) (slot : Slot) : patchedSlot heap type slot patch =
      (patchedSlot .empty type slot patch).map fun patched => (patched.1, heap) := by
  unfold patchedSlot
  split <;> first | rfl | (split <;> rfl) | exact absurd plain (List.cons_ne_nil _ _)

/-- What takes the place of a slot is what takes the place of its figure. -/
theorem patchedSlot_slot (heap : Heap) {type : FieldType} {old : Figure Address}
    (fits : old.Fits type) (patch : Patch) : patchedSlot heap type old.slot patch =
      (old.patched heap.blocks.size type patch).map fun new =>
        (new.slot, heap.allocateAll patch.cells) := by
  have plain : patch.cells = [] → old.slot = old.bare →
      patchedSlot heap type old.slot patch =
        ((patchedSlot .empty type old.bare patch).map fun patched => Figure.leaf patched.1).map
          fun new : Figure Address => (new.slot, heap.allocateAll patch.cells) := by
    intro noText same
    rw [patchedSlot_of_plain heap noText, same, noText]
    cases patchedSlot .empty type old.bare patch <;> rfl
  cases patch with
  | text value =>
    have patched : old.patched heap.blocks.size type (.text value) =
        if type = .pointer .text then .ok (.text heap.blocks.size (cutAtZero value))
        else .error .badValue := by
      cases old <;> rfl
    rw [patched]
    split
    · rename_i same
      cases same
      rfl
    · rename_i different
      cases type with
      | pointer target =>
        cases target with
        | text => exact (different rfl).elim
        | node kind => rfl
      | sequence target => cases old.slot <;> rfl
      | _ => rfl
  | integer value =>
    cases old with
    | array address count elements =>
      obtain ⟨target, rfl, -⟩ := Figure.fits_array.mp fits
      simp only [Figure.slot_array, patchedSlot, Figure.patched]
      split <;> rfl
    | leaf slot => exact plain rfl rfl
    | text address value =>
      obtain ⟨rfl, -⟩ := Figure.fits_text.mp fits
      rfl
    | record address actual fields =>
      obtain ⟨kind, rfl, -⟩ := Figure.fits_record.mp fits
      rfl
  | _ =>
    cases old with
    | array address count elements =>
      obtain ⟨target, rfl, -⟩ := Figure.fits_array.mp fits
      rfl
    | leaf slot => exact plain rfl rfl
    | text address value =>
      obtain ⟨rfl, -⟩ := Figure.fits_text.mp fits
      rfl
    | record address actual fields =>
      obtain ⟨kind, rfl, -⟩ := Figure.fits_record.mp fits
      rfl

theorem patchedPointer_slot (heap : Heap) {target : Target} {old : Figure Address}
    (fits : old.Fits (.pointer target)) (patch : Patch) : patchedPointer heap target patch =
      (old.patched heap.blocks.size (.pointer target) patch).map fun new =>
        (new.slot.target?, heap.allocateAll patch.cells) := by
  have same : patchedPointer heap target patch =
      (patchedSlot heap (.pointer target) old.slot patch).map fun patched =>
        (patched.1.target?, patched.2) := by
    cases patch <;> cases target <;> rfl
  rw [same, patchedSlot_slot heap fits]
  cases old.patched heap.blocks.size (.pointer target) patch <;> rfl

/-- A new value stands in memory that keeps what it brings along. -/
theorem Depicts.patched {heap : Heap} {type : FieldType} {old new : Figure Address} {patch : Patch}
    (depicts : heap.Depicts old) (done : old.patched heap.blocks.size type patch = .ok new) :
    (heap.allocateAll patch.cells).Depicts new := by
  cases Figure.patches_of_ok done with
  | text value => exact depicts_text.mpr (heap.allocate_cell? (.text (cutAtZero value)))
  | count inside => exact depicts
  | leaf plain done => exact fun _ member => (List.not_mem_nil member).elim

/-- Whether a statement would pass for a select depends on no address. -/
theorem wouldPromote_slot (seen : Kind) (position : Nat) (figure : Figure Address) :
    wouldPromote seen position figure.slot = wouldPromote seen position figure.bare := by
  cases figure <;> rfl

/-! ### Overwriting a figure in memory -/

/-- Exchanging one of several figures leaves the others as they are. -/
theorem DepictsAll.set {heap later : Heap} {figures : List (Figure Address)} {position : Nat}
    {old new : Figure Address} (depicts : heap.DepictsAll figures)
    (there : figures[position]? = some old) (distinct : (Figure.marksAll figures).Nodup)
    (same : ∀ address ∈ Figure.marksAll figures, address ∉ old.marks →
      later.cell? address = heap.cell? address) (changed : later.Depicts new) :
    later.DepictsAll (figures.set position new) := by
  induction figures generalizing position with
  | nil => cases there
  | cons head tail inductionHypothesis =>
    obtain ⟨first, others⟩ := depictsAll_cons.mp depicts
    rw [Figure.marksAll] at same distinct
    obtain ⟨-, othersDistinct, disjoint⟩ := List.nodup_append'.mp distinct
    cases position with
    | zero =>
      cases there
      refine depictsAll_cons.mpr ⟨changed, others.of_same fun address member => ?_⟩
      exact same address (List.mem_append_right _ member) fun inside => disjoint inside member
    | succ position =>
      have below : old.marks ⊆ Figure.marksAll tail := Figure.marks_subset_marksAll there
      refine depictsAll_cons.mpr ⟨first.of_same fun address member => ?_,
        inductionHypothesis others there othersDistinct fun address member =>
          same address (List.mem_append_right _ member)⟩
      exact same address (List.mem_append_left _ member) fun inside =>
        disjoint member (below inside)

/-- What overwriting a figure in memory comes to: what is new is kept, and one cell of the figure is
exchanged. -/
structure Rewritten (heap : Heap) (patch : Patch) (old new : Figure Address) (later : Heap) :
    Prop where
  slot : new.slot = old.slot
  depicts : later.Depicts new
  replaced : ∃ address ∈ old.marks, ∃ cell,
    later = (heap.allocateAll patch.cells).replace address cell

/-- Older cells are as they were, if they are not of the figure. -/
theorem Rewritten.block? {heap later : Heap} {patch : Patch} {old new : Figure Address}
    (rewritten : Rewritten heap patch old new later) {address : Address}
    (older : address < heap.blocks.size) (other : address ∉ old.marks) :
    later.block? address = heap.block? address := by
  obtain ⟨exchanged, member, cell, rfl⟩ := rewritten.replaced
  rw [replace_block?_of_ne fun same => other (by rwa [same]), allocateAll_block?_of_lt _ _ older]

/-- Overwrites a place. -/
def pokeSpot (heap : Heap) (patch : Patch) : Option Spot → Except PokeFault Heap
  | none => .error .badPath
  | some (.slot address seen position field) =>
    match heap.cell? address with
    | some (.record actual slots) =>
      match slots[position]? with
      | none => .error .badPath
      | some slot =>
        match patchedSlot heap field.type slot patch with
        | .error fault => .error fault
        | .ok (slot, heap) =>
          if wouldPromote seen position slot then .error .refused
          else .ok (heap.replace address (.record actual (slots.set position slot)))
    | _ => .error .badPath
  | some (.element address position target) =>
    match heap.cell? address with
    | some (.array pointers) =>
      match patchedPointer heap target patch with
      | .error fault => .error fault
      | .ok (pointer, heap) =>
        .ok (heap.replace address (.array (pointers.set position pointer)))
    | _ => .error .badPath

theorem poke_eq_pokeSpot (heap : Heap) (root : Address) (path : List Key) (patch : Patch) :
    heap.poke root path patch =
      heap.pokeSpot patch (heap.spotFrom? .image (.pointer (some root)) path) := by
  rw [← spot?_eq_spotFrom?]
  unfold poke pokeSpot
  cases heap.spot? .result root path with
  | none => rfl
  | some spot => cases spot <;> rfl

/-- What is asked of memory that overwrites a figure: it does so, or fails in the same way. -/
def Agrees (heap : Heap) (patch : Patch) (old : Figure Address)
    (inMemory : Except PokeFault Heap) : Except PokeFault (Figure Address) → Prop
  | .error fault => inMemory = .error fault
  | .ok new => ∃ later, inMemory = .ok later ∧ Rewritten heap patch old new later

section Refine

variable {heap : Heap} {patch : Patch}

theorem getElem?_of_take {α : Type} {list : List α} {count position : Nat} {value : α}
    (there : (list.take count)[position]? = some value) : list[position]? = some value := by
  rw [List.getElem?_take, Option.ite_none_right_eq_some] at there
  exact there.2

/-- The cell of a record or an array is exchanged, and one of the figures behind it. -/
theorem depictsAll_exchange {figures : List (Figure Address)} {position : Nat}
    {type : FieldType} {old new : Figure Address} {owner : Address} (cell : Cell)
    (depicts : heap.DepictsAll figures) (there : figures[position]? = some old)
    (distinct : (Figure.marksAll figures ++ [owner]).Nodup) (inside : owner < heap.blocks.size)
    (done : old.patched heap.blocks.size type patch = .ok new) :
    ((heap.allocateAll patch.cells).replace owner cell).DepictsAll (figures.set position new) := by
  obtain ⟨below, -, apart⟩ := List.nodup_append'.mp distinct
  have other : ∀ address ∈ Figure.marksAll figures, address ≠ owner := fun address member same =>
    apart member (List.mem_singleton.mpr same)
  have oldInside : old ∈ figures := List.mem_of_getElem? there
  have oldDepicts := depictsAll_iff.mp depicts old oldInside
  have oldMarks := Figure.marks_subset_marksAll there
  refine depicts.set there below (fun address member _ => ?_)
    ((oldDepicts.patched done).of_same fun address member => ?_)
  · rw [replace_cell?_of_ne (other address member), cell?, cell?,
      allocateAll_block?_of_lt _ _ (depicts.lt_size address member)]
  · refine replace_cell?_of_ne ?_
    obtain ⟨lost, exchanged⟩ := (Figure.patches_of_ok done).marks
    rcases List.mem_append.mp (exchanged.subset (List.mem_append_left _ member)) with mine | fresh
    · exact other address (oldMarks mine)
    · cases patch with
      | text value =>
        rw [List.mem_singleton.mp fresh]
        exact Nat.ne_of_gt inside
      | _ => cases fresh

variable (patch) in
/-- A field of a record is overwritten. -/
theorem agrees_field {address : Address} {kind actual : Kind} {fields : List (Figure Address)}
    {name : String} {position : Nat} {field : Field} {old : Figure Address}
    (depicts : heap.Depicts (.record address actual fields))
    (distinct : (Figure.record address actual fields).marks.Nodup)
    (named : (Figure.seenAs kind fields).field? name = some (position, field))
    (there : fields[position]? = some old) (fits : old.Fits field.type) :
    heap.Agrees patch (.record address actual fields)
      (heap.pokeSpot patch (some (.slot address (Figure.seenAs kind fields) position field)))
      ((Figure.record address actual fields).overwrite heap.blocks.size patch [.field name]
        (.pointer (.node kind))) := by
  obtain ⟨below, cell⟩ := depicts_record.mp depicts
  have slotThere : (fields.map Figure.slot)[position]? = some old.slot := by
    rw [List.getElem?_map, there, Option.map_some]
  have inside := lt_size_of_cell? cell
  simp only [pokeSpot, cell, slotThere, patchedSlot_slot heap fits, Figure.overwrite, named, there]
  cases done : old.patched heap.blocks.size field.type patch with
  | error fault => rfl
  | ok new =>
    simp only [Except.map, wouldPromote_slot]
    split
    · rfl
    · refine ⟨_, rfl, rfl, depicts_record.mpr
        ⟨depictsAll_exchange _ below there distinct inside done, ?_⟩, address, ?_, _, rfl⟩
      · rw [List.map_set]
        exact replace_cell?_self (heap.keptIn_allocateAll _ _ _ cell)
      · exact List.mem_append_right _ (List.mem_singleton.mpr rfl)

variable (patch) in
/-- An element of an array is overwritten. -/
theorem agrees_element {address : Address} {target : Target} {elements : List (Figure Address)}
    {position count : Nat} {old : Figure Address}
    (depicts : heap.Depicts (.array address count elements))
    (distinct : (Figure.array address count elements).marks.Nodup)
    (counted : (elements.take count)[position]? = some old) (fits : old.Fits (.pointer target)) :
    heap.Agrees patch (.array address count elements)
      (heap.pokeSpot patch (some (.element address position target)))
      ((Figure.array address count elements).overwrite heap.blocks.size patch [.element position]
        (.sequence target)) := by
  have there := getElem?_of_take counted
  obtain ⟨below, cell⟩ := depicts_array.mp depicts
  have inside := lt_size_of_cell? cell
  simp only [pokeSpot, cell, patchedPointer_slot heap fits, Figure.overwrite, counted]
  cases done : old.patched heap.blocks.size (.pointer target) patch with
  | error fault => rfl
  | ok new =>
    refine ⟨_, rfl, rfl, depicts_array.mpr
      ⟨depictsAll_exchange _ below there distinct inside done, ?_⟩, address, ?_, _, rfl⟩
    · rw [List.map_set]
      exact replace_cell?_self (heap.keptIn_allocateAll _ _ _ cell)
    · exact List.mem_append_right _ (List.mem_singleton.mpr rfl)

/-- One of the figures behind a record or an array is overwritten, and nothing else about them
changes. -/
theorem Rewritten.depictsAll {later : Heap} {figures : List (Figure Address)} {position : Nat}
    {old new : Figure Address} {owner : Address} {cell : Cell}
    (rewritten : Rewritten heap patch old new later) (depicts : heap.DepictsAll figures)
    (there : figures[position]? = some old) (distinct : (Figure.marksAll figures ++ [owner]).Nodup)
    (owned : heap.cell? owner = some cell) :
    later.DepictsAll (figures.set position new) ∧
      (figures.set position new).map Figure.slot = figures.map Figure.slot ∧
      later.cell? owner = some cell ∧
      ∃ address ∈ Figure.marksAll figures ++ [owner], ∃ cell,
        later = (heap.allocateAll patch.cells).replace address cell := by
  obtain ⟨below, -, apart⟩ := List.nodup_append'.mp distinct
  have oldMarks := Figure.marks_subset_marksAll there
  refine ⟨?_, ?_, ?_, ?_⟩
  · refine depicts.set there below (fun address member other => ?_) rewritten.depicts
    rw [cell?, cell?, rewritten.block? (depicts.lt_size address member) other]
  · have slotThere : (figures.map Figure.slot)[position]? = some old.slot := by
      rw [List.getElem?_map, there, Option.map_some]
    obtain ⟨inside, same⟩ := List.getElem?_eq_some_iff.mp slotThere
    rw [List.map_set, rewritten.slot, ← same, List.set_getElem_self]
  · have other : owner ∉ old.marks := fun member =>
      apart (oldMarks member) (List.mem_singleton.mpr rfl)
    rw [cell?, rewritten.block? (lt_size_of_cell? owned) other]
    exact owned
  · obtain ⟨address, member, replaced⟩ := rewritten.replaced
    exact ⟨address, List.mem_append_left _ (oldMarks member), replaced⟩

/-- What is overwritten behind a field is no tag. -/
theorem wouldPromote_of_overwrites {Mark : Type} {fresh : Mark} {key : Key} {rest : List Key}
    {type : FieldType} {old new : Figure Mark}
    (overwrites : Figure.Overwrites fresh patch (key :: rest) type old new) (seen : Kind)
    (position : Nat) : wouldPromote seen position new.bare = false := by
  cases overwrites <;> simp [wouldPromote, Figure.bare, Kind.seen]

/-- No path leads on from a slot that leads nowhere. -/
theorem spotFrom?_leaf {type : FieldType} {slot : Slot} (fits : Figure.leafFits type slot = true)
    (key : Key) (rest : List Key) : heap.spotFrom? type slot (key :: rest) = none := by
  unfold spotFrom?
  split
  · cases fits
  · cases fits
  · rfl

/-- Something behind a field of a record is overwritten, and the record with it. -/
theorem agrees_behind_field {address : Address} {kind actual : Kind}
    {fields : List (Figure Address)} {name : String} {position : Nat} {field : Field}
    {old : Figure Address} {next : Key} {rest : List Key} {inMemory : Except PokeFault Heap}
    (depicts : heap.Depicts (.record address actual fields))
    (distinct : (Figure.record address actual fields).marks.Nodup)
    (named : (Figure.seenAs kind fields).field? name = some (position, field))
    (there : fields[position]? = some old)
    (agrees : heap.Agrees patch old inMemory
      (old.overwrite heap.blocks.size patch (next :: rest) field.type)) :
    heap.Agrees patch (.record address actual fields) inMemory
      ((Figure.record address actual fields).overwrite heap.blocks.size patch
        (.field name :: next :: rest) (.pointer (.node kind))) := by
  obtain ⟨below, cell⟩ := depicts_record.mp depicts
  simp only [Figure.overwrite, named, there]
  cases done : old.overwrite heap.blocks.size patch (next :: rest) field.type with
  | error fault =>
    rw [done] at agrees
    exact agrees
  | ok new =>
    rw [done] at agrees
    obtain ⟨later, overwritten, rewritten⟩ := agrees
    obtain ⟨depictsAll, slots, owner, replaced⟩ := rewritten.depictsAll below there distinct cell
    have kept := wouldPromote_of_overwrites (Figure.overwrites_of_ok done)
      (Figure.seenAs kind fields) position
    simp only [kept, Bool.false_eq_true, if_false]
    exact ⟨later, overwritten, rfl, depicts_record.mpr ⟨depictsAll, by rw [slots, owner]⟩, replaced⟩

/-- Something behind an element of an array is overwritten, and the array with it. -/
theorem agrees_behind_element {address : Address} {target : Target}
    {elements : List (Figure Address)} {position count : Nat} {old : Figure Address} {next : Key}
    {rest : List Key} {inMemory : Except PokeFault Heap}
    (depicts : heap.Depicts (.array address count elements))
    (distinct : (Figure.array address count elements).marks.Nodup)
    (counted : (elements.take count)[position]? = some old)
    (agrees : heap.Agrees patch old inMemory
      (old.overwrite heap.blocks.size patch (next :: rest) (.pointer target))) :
    heap.Agrees patch (.array address count elements) inMemory
      ((Figure.array address count elements).overwrite heap.blocks.size patch
        (.element position :: next :: rest) (.sequence target)) := by
  obtain ⟨below, cell⟩ := depicts_array.mp depicts
  simp only [Figure.overwrite, counted]
  cases done : old.overwrite heap.blocks.size patch (next :: rest) (.pointer target) with
  | error fault =>
    rw [done] at agrees
    exact agrees
  | ok new =>
    rw [done] at agrees
    obtain ⟨later, overwritten, rewritten⟩ := agrees
    obtain ⟨depictsAll, slots, owner, replaced⟩ :=
      rewritten.depictsAll below (getElem?_of_take counted) distinct cell
    refine ⟨later, overwritten, rfl, depicts_array.mpr ⟨depictsAll, ?_⟩, replaced⟩
    have targets := congrArg (List.map Slot.target?) slots
    rw [List.map_map, List.map_map] at targets
    rw [owner]
    exact congrArg (fun pointers => some (Cell.array pointers)) targets.symm

/-- Overwriting in memory that shows a figure overwrites the figure. -/
theorem agrees_overwrite {path : List Key} {type : FieldType} {figure : Figure Address}
    (nonempty : path ≠ []) (depicts : heap.Depicts figure) (fits : figure.Fits type)
    (distinct : figure.marks.Nodup) :
    heap.Agrees patch figure (heap.pokeSpot patch (heap.spotFrom? type figure.slot path))
      (figure.overwrite heap.blocks.size patch path type) := by
  induction path generalizing type figure with
  | nil => exact (nonempty rfl).elim
  | cons key rest inductionHypothesis =>
    cases figure with
    | record address actual fields =>
      obtain ⟨kind, rfl, mayBe, fit⟩ := Figure.fits_record.mp fits
      cases key with
      | field name =>
        obtain ⟨below, cell⟩ := depicts_record.mp depicts
        simp only [Figure.slot_record, spotFrom?, record?_of_depicts cell mayBe,
          Option.bind_eq_bind, Option.bind_some]
        cases named : (Figure.seenAs kind fields).field? name with
        | none =>
          simp only [Figure.overwrite, named]
          rfl
        | some place =>
          obtain ⟨position, field⟩ := place
          obtain ⟨old, there, oldFits⟩ := fit.exists_of_seen mayBe (Figure.field?_getElem? named)
          cases rest with
          | nil => exact agrees_field patch depicts distinct named there oldFits
          | cons next rest =>
            have oldDepicts := depictsAll_iff.mp below old (List.mem_of_getElem? there)
            have oldDistinct := Figure.nodup_of_getElem? there (List.nodup_append'.mp distinct).1
            simp only [List.getElem?_map, there, Option.map_some, Option.bind_some]
            exact agrees_behind_field depicts distinct named there
              (inductionHypothesis (List.cons_ne_nil next rest) oldDepicts oldFits oldDistinct)
      | _ => rfl
    | array address count elements =>
      obtain ⟨target, rfl, inside, fit⟩ := Figure.fits_array.mp fits
      cases key with
      | element position =>
        obtain ⟨below, cell⟩ := depicts_array.mp depicts
        have array := array?_of_depicts cell ((List.length_map _).symm ▸ inside)
        rw [← List.map_take] at array
        simp only [Figure.slot_array, spotFrom?, array, Option.bind_eq_bind, Option.bind_some,
          List.getElem?_map]
        cases counted : (elements.take count)[position]? with
        | none =>
          simp only [Figure.overwrite, counted]
          rfl
        | some old =>
          have there := getElem?_of_take counted
          have oldInside := List.mem_of_getElem? there
          have oldFits := Figure.elementsFit_iff.mp fit old oldInside
          simp only [Option.map_some, Option.bind_some]
          cases rest with
          | nil => exact agrees_element patch depicts distinct counted oldFits
          | cons next rest =>
            have oldDepicts := depictsAll_iff.mp below old oldInside
            have oldDistinct := Figure.nodup_of_getElem? there (List.nodup_append'.mp distinct).1
            have agrees := inductionHypothesis (List.cons_ne_nil next rest) oldDepicts oldFits
              oldDistinct
            rw [oldFits.slot_eq_pointer] at agrees
            exact agrees_behind_element depicts distinct counted agrees
      | _ => rfl
    | leaf slot =>
      have nowhere : heap.spotFrom? type slot (key :: rest) = none := spotFrom?_leaf fits key rest
      rw [Figure.overwrite_leaf, Figure.slot, nowhere]
      rfl
    | text address value =>
      obtain ⟨rfl, -⟩ := Figure.fits_text.mp fits
      cases key <;> rfl

end Refine

/-! ### Overwriting an image -/

section Image

variable {heap later : Heap} {root : Address} {figure new : Figure Address} {patch : Patch}
  {path : List Key}

/-- Overwriting an image overwrites its figure, or fails in the same way. -/
theorem Shows.agrees_poke (shows : heap.Shows root figure) (path : List Key) (patch : Patch) :
    heap.Agrees patch figure (heap.poke root path patch)
      (figure.poke heap.blocks.size path patch) := by
  rw [poke_eq_pokeSpot, ← shows.slot, Figure.poke]
  split
  · rename_i empty
    rw [empty]
    have nowhere : heap.spotFrom? .image figure.slot [] = none := by
      unfold spotFrom?
      split <;> first | rfl | contradiction
    rw [nowhere]
    rfl
  · rename_i nonempty
    exact agrees_overwrite nonempty shows.depicts shows.fits shows.distinct

/-- What is new about the cells of an overwritten figure is what the new value brings along. -/
theorem Shows.marks_poke (shows : heap.Shows root figure)
    (done : figure.poke heap.blocks.size path patch = .ok new) :
    new.Fits .image ∧
      ∃ lost, (new.marks ++ lost).Perm (figure.marks ++ patch.marks heap.blocks.size) := by
  unfold Figure.poke at done
  split at done
  · cases done
  · have overwrites := Figure.overwrites_of_ok done
    exact ⟨overwrites.fits shows.fits, overwrites.marks⟩

theorem Shows.of_rewritten (shows : heap.Shows root figure)
    (done : figure.poke heap.blocks.size path patch = .ok new)
    (rewritten : Rewritten heap patch figure new later) : later.Shows root new := by
  obtain ⟨fits, lost, exchanged⟩ := shows.marks_poke done
  have distinct : (figure.marks ++ patch.marks heap.blocks.size).Nodup := by
    refine List.nodup_append'.mpr ⟨shows.distinct, ?_, fun address member fresh => ?_⟩
    · cases patch <;> simp [Patch.marks]
    · have older := shows.depicts.lt_size address member
      cases patch with
      | text value => exact Nat.ne_of_lt older (List.mem_singleton.mp fresh)
      | _ => cases fresh
  exact ⟨rewritten.slot.trans shows.slot, fits, rewritten.depicts,
    (List.nodup_append'.mp (exchanged.nodup_iff.mpr distinct)).1⟩

theorem Rewritten.scopes (rewritten : Rewritten heap patch figure new later) :
    later.scopes = heap.scopes.modifyHead fun scope =>
      { scope with allocations := scope.allocations + patch.cells.length } := by
  obtain ⟨address, -, cell, rfl⟩ := rewritten.replaced
  rw [replace_scopes, allocateAll_scopes]

theorem Rewritten.settled (rewritten : Rewritten heap patch figure new later)
    (settled : heap.Settled) : later.Settled := by
  obtain ⟨address, -, cell, rfl⟩ := rewritten.replaced
  exact (settled.allocateAll patch.cells).replace address cell

/-- What is outstanding afterwards is what was outstanding before and what is new. -/
theorem Rewritten.owes (rewritten : Rewritten heap patch figure new later) {number : Nat}
    (innermost : heap.innermost? = some number) (address : Address) :
    later.owes number address =
      (heap.owes number address || decide (address ∈ patch.marks heap.blocks.size)) := by
  obtain ⟨exchanged, -, cell, rfl⟩ := rewritten.replaced
  have fresh : patch.marks heap.blocks.size =
      List.range' heap.blocks.size patch.cells.length := by
    cases patch <;> rfl
  rw [replace_owes, allocateAll_owes innermost, fresh]

/-- Which cells are outstanding, and the next one to be made with them. -/
def owesNext (heap : Heap) (number : Nat) (address : Address) : Bool :=
  decide (address = heap.blocks.size) || heap.owes number address

theorem owesNext_of_lt {number : Nat} {address : Address} (older : address < heap.blocks.size) :
    heap.owesNext number address = heap.owes number address := by
  rw [owesNext, decide_eq_false (Nat.ne_of_lt older), Bool.false_or]

/-- A figure that only says which cells are outstanding is overwritten in the same way. -/
theorem Shows.poke_map_owes (shows : heap.Shows root figure) (number : Nat) :
    (figure.map (heap.owes number)).poke true path patch =
      (figure.poke heap.blocks.size path patch).map (Figure.map (heap.owesNext number)) := by
  have before : figure.map (heap.owes number) = figure.map (heap.owesNext number) :=
    Figure.map_congr figure fun address member =>
      (owesNext_of_lt (shows.depicts.lt_size address member)).symm
  have fresh : heap.owesNext number heap.blocks.size = true := by simp [owesNext]
  rw [before, ← Figure.poke_map, fresh]

/-- The cells of the overwritten figure are outstanding as they were, and a fresh text is too. -/
theorem Shows.owes_poke (shows : heap.Shows root figure) {number : Nat}
    (innermost : heap.innermost? = some number)
    (done : figure.poke heap.blocks.size path patch = .ok new)
    (rewritten : Rewritten heap patch figure new later) :
    new.map (heap.owesNext number) = new.map (later.owes number) := by
  obtain ⟨-, lost, exchanged⟩ := shows.marks_poke done
  refine Figure.map_congr new fun address member => ?_
  rw [rewritten.owes innermost]
  rcases List.mem_append.mp (exchanged.subset (List.mem_append_left _ member)) with mine | fresh
  · have inside := shows.depicts.lt_size address mine
    have old : address ∉ patch.marks heap.blocks.size := by
      cases patch with
      | text value => exact fun fresh => Nat.ne_of_lt inside (List.mem_singleton.mp fresh)
      | _ => exact List.not_mem_nil
    rw [owesNext_of_lt inside, decide_eq_false old, Bool.or_false]
  · rw [decide_eq_true fresh, Bool.or_true]
    cases patch with
    | text value => simp [owesNext, List.mem_singleton.mp fresh]
    | _ => cases fresh

end Image

end Heap

end SqlImage.Image
