/-
This file says what the operations on memory do to the block at every address and
to the counts of the innermost scope. Keeping cells one after the other puts their
blocks behind the older ones and changes nothing else. Giving back a list of
distinct cells takes them away when no scope is open. In a scope it takes nothing
away: the cells that the scope made and still has outstanding are marked and count
as releases, and all others count as invalid.
-/

import SqlImage.Image.Heap
import Mathlib.Data.List.Nodup

namespace SqlImage.Image

namespace Heap

/-! ### Blocks and cells -/

theorem block?_eq_none_of_size_le (heap : Heap) (address : Address)
    (beyond : heap.blocks.size ≤ address) : heap.block? address = none := by
  rw [block?, Array.getElem?_eq_none beyond]
  rfl

theorem lt_size_of_block? {heap : Heap} {address : Address} {block : Block}
    (found : heap.block? address = some block) : address < heap.blocks.size := by
  by_contra beyond
  rw [block?_eq_none_of_size_le heap address (Nat.le_of_not_lt beyond)] at found
  cases found

theorem mem_blocks_of_block? {heap : Heap} {address : Address} {block : Block}
    (found : heap.block? address = some block) : some block ∈ heap.blocks := by
  have inside := lt_size_of_block? found
  rw [block?, Array.getElem?_eq_getElem inside, Option.join_some] at found
  exact found ▸ Array.getElem_mem inside

theorem lt_size_of_cell? {heap : Heap} {address : Address} {cell : Cell}
    (found : heap.cell? address = some cell) : address < heap.blocks.size := by
  obtain ⟨block, blockFound, -⟩ := Option.map_eq_some_iff.mp found
  exact lt_size_of_block? blockFound

/-- Two memories of the same extent are the same if they have the same scopes and the same block
at every address. -/
theorem ext_of_block? {first second : Heap} (size : first.blocks.size = second.blocks.size)
    (same : ∀ address, first.block? address = second.block? address)
    (scopes : first.scopes = second.scopes) (next : first.nextScope = second.nextScope) :
    first = second := by
  have blocks : first.blocks = second.blocks := by
    refine Array.ext size fun address bound bound' => ?_
    have join := same address
    rw [block?, block?, Array.getElem?_eq_getElem bound, Array.getElem?_eq_getElem bound'] at join
    exact join
  cases first
  cases second
  simp_all

/-- The later memory still has every cell of the earlier one. -/
def KeptIn (earlier later : Heap) : Prop :=
  ∀ address cell, earlier.cell? address = some cell → later.cell? address = some cell

theorem KeptIn.refl (heap : Heap) : heap.KeptIn heap := fun _ _ found => found

theorem KeptIn.trans {first second third : Heap} (left : first.KeptIn second)
    (right : second.KeptIn third) : first.KeptIn third :=
  fun address cell found => right address cell (left address cell found)

/-! ### Keeping cells -/

/-- The block of a cell that has just been kept. -/
def freshBlock (heap : Heap) (cell : Cell) : Block := ⟨cell, cell.layout, heap.innermost?, false⟩

@[simp] theorem count_blocks (heap : Heap) (change : Scope → Scope) :
    (heap.count change).blocks = heap.blocks := by
  unfold count
  split <;> rfl

@[simp] theorem count_nextScope (heap : Heap) (change : Scope → Scope) :
    (heap.count change).nextScope = heap.nextScope := by
  unfold count
  split <;> rfl

theorem count_scopes (heap : Heap) (change : Scope → Scope) :
    (heap.count change).scopes = heap.scopes.modifyHead change := by
  unfold count
  split <;> simp [*]

theorem allocate_blocks (heap : Heap) (cell : Cell) :
    (heap.allocate cell).2.blocks = heap.blocks.push (some (heap.freshBlock cell)) :=
  count_blocks _ _

theorem allocate_nextScope (heap : Heap) (cell : Cell) :
    (heap.allocate cell).2.nextScope = heap.nextScope :=
  count_nextScope _ _

theorem allocate_scopes (heap : Heap) (cell : Cell) :
    (heap.allocate cell).2.scopes =
      heap.scopes.modifyHead fun scope => { scope with allocations := scope.allocations + 1 } :=
  count_scopes _ _

theorem allocate_innermost? (heap : Heap) (cell : Cell) :
    (heap.allocate cell).2.innermost? = heap.innermost? := by
  rw [innermost?, innermost?, allocate_scopes]
  cases heap.scopes <;> rfl

theorem innermost?_of_scopes {heap : Heap} {scope : Scope} {outer : List Scope}
    (opened : heap.scopes = scope :: outer) : heap.innermost? = some scope.number := by
  rw [innermost?, opened]
  rfl

/-- Keeps cells one after the other. -/
def allocateAll (heap : Heap) (cells : List Cell) : Heap :=
  cells.foldl (fun heap cell => (heap.allocate cell).2) heap

theorem allocateAll_append (heap : Heap) (first second : List Cell) :
    heap.allocateAll (first ++ second) = (heap.allocateAll first).allocateAll second :=
  List.foldl_append

theorem allocateAll_nextScope (heap : Heap) (cells : List Cell) :
    (heap.allocateAll cells).nextScope = heap.nextScope := by
  induction cells generalizing heap with
  | nil => rfl
  | cons cell rest inductionHypothesis =>
    exact (inductionHypothesis _).trans (allocate_nextScope heap cell)

/-- The blocks of the cells that are kept come behind the older ones. -/
theorem allocateAll_blocks (heap : Heap) (cells : List Cell) :
    (heap.allocateAll cells).blocks =
      heap.blocks ++ (cells.map fun cell => some (heap.freshBlock cell)).toArray := by
  induction cells generalizing heap with
  | nil => simp [allocateAll]
  | cons cell rest inductionHypothesis =>
    have step := inductionHypothesis (heap.allocate cell).2
    rw [allocate_blocks] at step
    have same : (heap.allocate cell).2.freshBlock = heap.freshBlock := by
      funext other
      rw [freshBlock, freshBlock, allocate_innermost?]
    rw [same] at step
    refine step.trans ?_
    rw [← Array.append_singleton, Array.append_assoc]
    simp

theorem allocateAll_size (heap : Heap) (cells : List Cell) :
    (heap.allocateAll cells).blocks.size = heap.blocks.size + cells.length := by
  simp [allocateAll_blocks]

/-- The innermost scope counts every cell that is kept. -/
theorem allocateAll_scopes (heap : Heap) (cells : List Cell) :
    (heap.allocateAll cells).scopes = heap.scopes.modifyHead fun scope =>
      { scope with allocations := scope.allocations + cells.length } := by
  induction cells generalizing heap with
  | nil =>
    rw [allocateAll, List.foldl_nil]
    cases heap.scopes <;> rfl
  | cons cell rest inductionHypothesis =>
    refine (inductionHypothesis _).trans ?_
    rw [allocate_scopes]
    cases heap.scopes with
    | nil => rfl
    | cons scope outer =>
      simp only [List.modifyHead_cons, List.length_cons]
      congr 2
      omega

theorem allocateAll_block?_of_lt (heap : Heap) (cells : List Cell) {address : Address}
    (older : address < heap.blocks.size) :
    (heap.allocateAll cells).block? address = heap.block? address := by
  rw [block?, block?, allocateAll_blocks, Array.getElem?_append_left older]

theorem allocateAll_block?_of_le (heap : Heap) (cells : List Cell) {address : Address}
    (newer : heap.blocks.size ≤ address) :
    (heap.allocateAll cells).block? address =
      (cells[address - heap.blocks.size]?).map heap.freshBlock := by
  rw [block?, allocateAll_blocks, Array.getElem?_append_right newer]
  cases found : cells[address - heap.blocks.size]? <;> simp [found]

theorem keptIn_allocateAll (heap : Heap) (cells : List Cell) :
    heap.KeptIn (heap.allocateAll cells) := by
  intro address cell found
  rw [cell?, allocateAll_block?_of_lt heap cells (lt_size_of_cell? found)]
  exact found

/-! ### Giving back cells -/

/-- Gives back cells one after the other, each as something of a layout. -/
def giveBackAll : List (Address × Layout) → Heap → Except Fault Heap
  | [], heap => .ok heap
  | (address, layout) :: rest, heap =>
    match heap.giveBack address layout with
    | .ok heap => giveBackAll rest heap
    | .error fault => .error fault

theorem giveBackAll_append (first second : List (Address × Layout)) (heap : Heap) :
    giveBackAll (first ++ second) heap =
      match giveBackAll first heap with
      | .ok heap => giveBackAll second heap
      | .error fault => .error fault := by
  induction first generalizing heap with
  | nil => rfl
  | cons entry rest inductionHypothesis =>
    obtain ⟨address, layout⟩ := entry
    simp only [List.cons_append, giveBackAll]
    cases heap.giveBack address layout with
    | error fault => rfl
    | ok later => exact inductionHypothesis later

theorem block?_setIfInBounds (heap : Heap) (address other : Address) (block : Option Block)
    (inside : address < heap.blocks.size) :
    ({ heap with blocks := heap.blocks.setIfInBounds address block } : Heap).block? other =
      if other = address then block else heap.block? other := by
  simp only [block?, Array.getElem?_setIfInBounds]
  by_cases same : other = address
  · simp [same, inside]
  · simp [same, Ne.symm same]

/-- Giving back one cell leaves the others alone. -/
theorem giveBack_block?_of_ne {heap later : Heap} {address other : Address} {layout : Layout}
    (given : heap.giveBack address layout = .ok later) (different : other ≠ address) :
    later.block? other = heap.block? other := by
  unfold giveBack at given
  split at given
  · cases given
  · rename_i block found
    have inside := lt_size_of_block? found
    split at given
    · split at given <;> cases given
      exact (block?_setIfInBounds heap address other _ inside).trans (if_neg different)
    · split at given <;> cases given
      · exact (block?_setIfInBounds heap address other _ inside).trans (if_neg different)
      · rfl

theorem giveBackAll_block?_of_notMem {heap later : Heap} {given : List (Address × Layout)}
    (done : giveBackAll given heap = .ok later) {address : Address}
    (other : address ∉ given.map Prod.fst) : later.block? address = heap.block? address := by
  induction given generalizing heap with
  | nil =>
    cases done
    rfl
  | cons entry rest inductionHypothesis =>
    obtain ⟨first, layout⟩ := entry
    simp only [List.map_cons, List.mem_cons, not_or] at other
    simp only [giveBackAll] at done
    split at done
    · rename_i next step
      rw [inductionHypothesis done other.2, giveBack_block?_of_ne step other.1]
    · cases done

/-! ### Giving back without a scope -/

/-- Without a scope, a cell that is given back as what it was made as is gone. -/
theorem giveBack_unscoped {heap : Heap} {address : Address} {layout : Layout}
    (unscoped : heap.scopes = []) (made : (heap.block? address).map (·.layout) = some layout) :
    ∃ later, heap.giveBack address layout = .ok later ∧ later.scopes = [] ∧
      later.nextScope = heap.nextScope ∧ later.blocks.size = heap.blocks.size ∧
      ∀ other, later.block? other = if other = address then none else heap.block? other := by
  obtain ⟨block, found, same⟩ := Option.map_eq_some_iff.mp made
  refine ⟨{ heap with blocks := heap.blocks.setIfInBounds address none }, ?_, unscoped, rfl,
    by simp, fun other => block?_setIfInBounds heap address other none (lt_size_of_block? found)⟩
  simp only [giveBack, found, unscoped, same, if_true]

/-- Without a scope, distinct cells that are given back as what they were made as are gone, and
nothing else changes. -/
theorem giveBackAll_unscoped {heap : Heap} {given : List (Address × Layout)}
    (unscoped : heap.scopes = []) (distinct : (given.map Prod.fst).Nodup)
    (made : ∀ entry ∈ given, (heap.block? entry.1).map (·.layout) = some entry.2) :
    ∃ later, giveBackAll given heap = .ok later ∧ later.scopes = [] ∧
      later.nextScope = heap.nextScope ∧ later.blocks.size = heap.blocks.size ∧
      ∀ address, later.block? address =
        if address ∈ given.map Prod.fst then none else heap.block? address := by
  induction given generalizing heap with
  | nil => exact ⟨heap, rfl, unscoped, rfl, rfl, fun address => by simp⟩
  | cons entry rest inductionHypothesis =>
    obtain ⟨first, layout⟩ := entry
    simp only [List.map_cons, List.nodup_cons] at distinct
    obtain ⟨next, step, scopes, number, size, blocks⟩ :=
      giveBack_unscoped unscoped (made (first, layout) List.mem_cons_self)
    have restMade : ∀ entry ∈ rest, (next.block? entry.1).map (·.layout) = some entry.2 := by
      intro entry member
      have different : entry.1 ≠ first := by
        rintro rfl
        exact distinct.1 (List.mem_map_of_mem member)
      rw [blocks, if_neg different]
      exact made entry (List.mem_cons_of_mem _ member)
    obtain ⟨later, done, laterScopes, laterNumber, laterSize, laterBlocks⟩ :=
      inductionHypothesis scopes distinct.2 restMade
    refine ⟨later, by simp only [giveBackAll, step, done], laterScopes, laterNumber.trans number,
      laterSize.trans size, fun address => ?_⟩
    rw [laterBlocks address, blocks address, List.map_cons]
    simp only [List.mem_cons]
    by_cases same : address = first
    · simp only [same, if_true, true_or, ite_self]
    · simp only [same, if_false, false_or]

/-! ### Giving back in a scope -/

/-- A block after it has been given back in the scope that made it. -/
def markReleased (block : Block) : Block := { block with released := true }

/-- Whether the cell at an address was made in a scope and not given back there. -/
def owes (heap : Heap) (number : Nat) (address : Address) : Bool :=
  isOutstanding number (heap.block? address)

theorem not_owes_of_size_le {heap : Heap} {number : Nat} {address : Address}
    (beyond : heap.blocks.size ≤ address) : heap.owes number address = false := by
  rw [owes, block?_eq_none_of_size_le heap address beyond]
  rfl

/-- What was just kept is outstanding in the innermost scope, and nothing else that was not
outstanding before. -/
theorem allocateAll_owes {heap : Heap} {number : Nat} (innermost : heap.innermost? = some number)
    (cells : List Cell) (address : Address) : (heap.allocateAll cells).owes number address =
      (heap.owes number address ||
        decide (address ∈ List.range' heap.blocks.size cells.length)) := by
  by_cases older : address < heap.blocks.size
  · have outside : address ∉ List.range' heap.blocks.size cells.length := fun member =>
      Nat.not_lt_of_le (List.mem_range'_1.mp member).1 older
    rw [owes, allocateAll_block?_of_lt heap cells older, ← owes, decide_eq_false outside,
      Bool.or_false]
  · have newer := Nat.le_of_not_lt older
    rw [not_owes_of_size_le newer, Bool.false_or, owes, allocateAll_block?_of_le heap cells newer]
    cases found : cells[address - heap.blocks.size]? with
    | none =>
      have beyond := List.getElem?_eq_none_iff.mp found
      have outside : address ∉ List.range' heap.blocks.size cells.length := fun member => by
        have inside := (List.mem_range'_1.mp member).2
        omega
      rw [decide_eq_false outside]
      rfl
    | some cell =>
      have inside := (List.getElem?_eq_some_iff.mp found).1
      have member : address ∈ List.range' heap.blocks.size cells.length :=
        List.mem_range'_1.mpr ⟨newer, by omega⟩
      rw [decide_eq_true member]
      simp [isOutstanding, freshBlock, innermost]

/-- A scope after it has counted releases and invalid releases. -/
def settle (scope : Scope) (released invalid : Nat) : Scope :=
  { scope with
    releases := scope.releases + released
    invalidReleases := scope.invalidReleases + invalid }

/-- What giving back cells in the innermost scope comes to: those that the scope has outstanding
are marked and count as released, and all others stay as they are and count as invalid. -/
structure GivenBack (heap : Heap) (scope : Scope) (outer : List Scope) (addresses : List Address)
    (later : Heap) : Prop where
  scopes : later.scopes = settle scope (addresses.countP (heap.owes scope.number))
    (addresses.countP (!heap.owes scope.number ·)) :: outer
  nextScope : later.nextScope = heap.nextScope
  size : later.blocks.size = heap.blocks.size
  block? : ∀ address, later.block? address =
    if address ∈ addresses ∧ heap.owes scope.number address = true then
      (heap.block? address).map markReleased
    else heap.block? address

theorem GivenBack.nil {heap : Heap} {scope : Scope} {outer : List Scope}
    (opened : heap.scopes = scope :: outer) : GivenBack heap scope outer [] heap where
  scopes := opened
  nextScope := rfl
  size := rfl
  block? address := by simp

/-- Other cells are as they were. -/
theorem GivenBack.block?_of_notMem {heap later : Heap} {scope : Scope} {outer : List Scope}
    {addresses : List Address} (given : GivenBack heap scope outer addresses later)
    {address : Address} (other : address ∉ addresses) :
    later.block? address = heap.block? address := by
  rw [given.block?, if_neg fun both => other both.1]

/-- The cells themselves stay, and so do the layouts that they were made with. -/
theorem GivenBack.cell? {heap later : Heap} {scope : Scope} {outer : List Scope}
    {addresses : List Address} (given : GivenBack heap scope outer addresses later)
    (address : Address) : later.cell? address = heap.cell? address := by
  rw [Heap.cell?, given.block?]
  split
  · rw [Option.map_map]
    rfl
  · rfl

theorem GivenBack.append {heap next later : Heap} {scope : Scope} {outer : List Scope}
    {first second : List Address} (disjoint : ∀ address ∈ second, address ∉ first)
    (before : GivenBack heap scope outer first next)
    (after : GivenBack next (settle scope (first.countP (heap.owes scope.number))
      (first.countP (!heap.owes scope.number ·))) outer second later) :
    GivenBack heap scope outer (first ++ second) later := by
  have owes : ∀ address ∈ second,
      next.owes scope.number address = heap.owes scope.number address := by
    intro address member
    rw [Heap.owes, before.block?_of_notMem (disjoint address member), Heap.owes]
  constructor
  case scopes =>
    have released : second.countP (next.owes scope.number) =
        second.countP (heap.owes scope.number) :=
      List.countP_congr fun address member => by rw [owes address member]
    have invalid : second.countP (!next.owes scope.number ·) =
        second.countP (!heap.owes scope.number ·) :=
      List.countP_congr fun address member => by rw [owes address member]
    rw [after.scopes]
    simp only [settle, released, invalid, List.countP_append, Nat.add_assoc]
  case nextScope => exact after.nextScope.trans before.nextScope
  case size => exact after.size.trans before.size
  case block? =>
    intro address
    rw [after.block?]
    by_cases inSecond : address ∈ second
    · rw [before.block?_of_notMem (disjoint address inSecond)]
      simp only [inSecond, true_and, List.mem_append, or_true]
      exact if_congr (by rw [← owes address inSecond]; rfl) rfl rfl
    · rw [if_neg fun both => inSecond both.1, before.block?]
      simp only [List.mem_append, inSecond, or_false]

/-- One cell that is there is given back, whatever it is given back as. -/
theorem giveBack_scoped {heap : Heap} {scope : Scope} {outer : List Scope}
    (opened : heap.scopes = scope :: outer) (address : Address) (layout : Layout)
    (there : (heap.block? address).isSome) :
    ∃ later, heap.giveBack address layout = .ok later ∧
      GivenBack heap scope outer [address] later := by
  obtain ⟨block, found⟩ := Option.isSome_iff_exists.mp there
  by_cases own : block.scope = some scope.number ∧ block.released = false
  · have owes : heap.owes scope.number address = true := by
      simp [Heap.owes, isOutstanding, found, own]
    refine ⟨{ heap with
        blocks := heap.blocks.setIfInBounds address (some (markReleased block))
        scopes := settle scope 1 0 :: outer }, ?_, ?_, rfl, by simp, fun other => ?_⟩
    · simp only [giveBack, found, opened, own, and_self, if_true, markReleased, settle,
        Nat.add_zero]
    · simp [owes]
    · refine (block?_setIfInBounds heap address other _ (lt_size_of_block? found)).trans ?_
      by_cases same : other = address
      · simp [same, found, owes]
      · simp [same]
  · have owes : heap.owes scope.number address = false := by
      simpa [Heap.owes, isOutstanding, found] using own
    refine ⟨{ heap with scopes := settle scope 0 1 :: outer }, ?_, ?_, rfl, rfl, fun other => ?_⟩
    · simp only [giveBack, found, opened, own, if_false]
      rfl
    · simp [owes]
    · rw [if_neg]
      · rfl
      · rintro ⟨member, outstanding⟩
        rw [List.mem_singleton.mp member, owes] at outstanding
        cases outstanding

/-- In a scope, distinct cells that are there are given back, whatever they are given back as. -/
theorem giveBackAll_scoped {heap : Heap} {scope : Scope} {outer : List Scope}
    {given : List (Address × Layout)} (opened : heap.scopes = scope :: outer)
    (distinct : (given.map Prod.fst).Nodup)
    (there : ∀ address ∈ given.map Prod.fst, (heap.block? address).isSome) :
    ∃ later, giveBackAll given heap = .ok later ∧
      GivenBack heap scope outer (given.map Prod.fst) later := by
  induction given generalizing heap scope with
  | nil => exact ⟨heap, rfl, .nil opened⟩
  | cons entry rest inductionHypothesis =>
    obtain ⟨first, layout⟩ := entry
    simp only [List.map_cons, List.nodup_cons] at distinct
    obtain ⟨next, step, before⟩ := giveBack_scoped opened first layout (there first (by simp))
    have apart : ∀ address ∈ rest.map Prod.fst, address ∉ [first] := by
      intro address member same
      exact distinct.1 (List.mem_singleton.mp same ▸ member)
    have restThere : ∀ address ∈ rest.map Prod.fst, (next.block? address).isSome := by
      intro address member
      rw [before.block?_of_notMem (apart address member)]
      exact there address (by simp [member])
    obtain ⟨later, done, after⟩ := inductionHypothesis before.scopes distinct.2 restThere
    exact ⟨later, by simp only [giveBackAll, step, done], before.append apart after⟩

end Heap

end SqlImage.Image
