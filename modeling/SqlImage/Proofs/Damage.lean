/-
This file says what becomes of an image that is damaged by overwriting its places. At
every moment whoever follows the image comes only by cells of the types that are meant,
and giving it back works. The first time that it is given back nothing counts as
invalid, and the second time everything does. The cells that stay outstanding are those
that were cut off, and no others.
-/

import SqlImage.Proofs.CutOff

namespace SqlImage.Image

namespace Heap

/-! ### Following an image -/

/-- Whoever loads an image or gives it back comes by a slot in a field of a type. -/
inductive Visits (heap : Heap) (root : Address) : FieldType → Slot → Prop
  | root : Visits heap root .image (.pointer (some root))
  | field {kind seen : Kind} {address : Address} {slots : List Slot} {position : Nat}
    {field : Field} {slot : Slot}
    (before : Visits heap root (.pointer (.node kind)) (.pointer (some address)))
    (record : heap.record? kind address = some (seen, slots))
    (named : seen.fields[position]? = some field) (there : slots[position]? = some slot) :
    Visits heap root field.type slot
  | element {target : Target} {address : Address} {count position : Nat}
    {pointers : List (Option Address)} {pointer : Option Address}
    (before : Visits heap root (.sequence target) (.sequence (.array address) count))
    (array : heap.array? address count = some pointers)
    (there : pointers[position]? = some pointer) :
    Visits heap root (.pointer target) (.pointer pointer)

/-- What stands in a field of a type leads nowhere, or to a cell of that type that is there. A
record has all the fields of its kind, and an array has all the elements that count. -/
def LeadsWell (heap : Heap) : FieldType → Slot → Prop
  | .pointer .text, .pointer (some address) => ∃ value, heap.cell? address = some (.text value)
  | .pointer (.node kind), .pointer (some address) =>
    ∃ actual slots, heap.cell? address = some (.record actual slots) ∧
      slots.length = actual.fields.length ∧ actual.mayBeSeen (kind.seen slots) = true
  | .sequence _, .sequence (.array address) count =>
    ∃ pointers, heap.cell? address = some (.array pointers) ∧ count ≤ pointers.length
  | type, slot => Figure.leafFits type slot = true

/-- What is done with an image is safe: whoever follows it is led well, so that it can be loaded and
given back, each cell of it once. The counts of the open scopes add up. -/
structure Safe (heap : Heap) (root : Address) : Prop where
  leads : ∀ {type slot}, heap.Visits root type slot → heap.LeadsWell type slot
  load : (heap.load root).isSome = true
  release : ∃ walked later, heap.walk root = some walked ∧ (walked.map Prod.fst).Nodup ∧
    heap.release (some root) = giveBackAll walked heap ∧ heap.release (some root) = .ok later
  balance : ∀ scope ∈ heap.scopes,
    scope.allocations = scope.releases + heap.outstanding scope.number

section Follow

variable {heap : Heap} {root : Address}

theorem Depicts.leadsWell {figure : Figure Address} {type : FieldType}
    (depicts : heap.Depicts figure) (fits : figure.Fits type) :
    heap.LeadsWell type figure.slot := by
  cases figure with
  | leaf slot =>
    rw [Figure.Fits] at fits
    rw [Figure.slot]
    unfold LeadsWell
    split <;> first | exact fits | cases fits
  | text address value =>
    obtain ⟨rfl, -⟩ := Figure.fits_text.mp fits
    exact ⟨value, depicts_text.mp depicts⟩
  | record address actual fields =>
    obtain ⟨kind, rfl, mayBe, fit⟩ := Figure.fits_record.mp fits
    refine ⟨actual, fields.map Figure.slot, (depicts_record.mp depicts).2, ?_, ?_⟩
    · rw [List.length_map, fit.length]
    · rw [Figure.seen_map_slot, mayBe]
  | array address count elements =>
    obtain ⟨target, rfl, inside, -⟩ := Figure.fits_array.mp fits
    exact ⟨_, (depicts_array.mp depicts).2, by rwa [List.length_map]⟩

/-- What stands in a slot that is visited is a part of the figure. -/
theorem Shows.part {figure : Figure Address} (shows : heap.Shows root figure) {type : FieldType}
    {slot : Slot} (visits : heap.Visits root type slot) :
    ∃ part : Figure Address, part.slot = slot ∧ part.Fits type ∧ heap.Depicts part := by
  induction visits with
  | root => exact ⟨figure, shows.slot, shows.fits, shows.depicts⟩
  | @field kind seen address slots position field slot before record named there
      inductionHypothesis =>
    obtain ⟨part, same, fits, depicts⟩ := inductionHypothesis
    match part, fits with
    | .record _ actual fields, ⟨mayBe, fit⟩ =>
      cases same
      obtain ⟨below, cell⟩ := depicts_record.mp depicts
      rw [record?_of_depicts cell mayBe] at record
      cases record
      obtain ⟨old, oldThere, oldFits⟩ := fit.exists_of_seen mayBe named
      rw [List.getElem?_map, oldThere] at there
      cases there
      exact ⟨old, rfl, oldFits, depictsAll_iff.mp below old (List.mem_of_getElem? oldThere)⟩
    | .leaf _, fits =>
      cases same
      cases fits
  | @element target address count position pointers pointer before array there
      inductionHypothesis =>
    obtain ⟨part, same, fits, depicts⟩ := inductionHypothesis
    match part, fits with
    | .array _ _ elements, ⟨inside, fit⟩ =>
      cases same
      obtain ⟨below, cell⟩ := depicts_array.mp depicts
      rw [array?_of_depicts cell ((List.length_map _).symm ▸ inside), ← List.map_take] at array
      cases array
      rw [List.getElem?_map] at there
      obtain ⟨old, oldThere, rfl⟩ := Option.map_eq_some_iff.mp there
      have member := List.mem_of_getElem? (getElem?_of_take oldThere)
      have oldFits := Figure.elementsFit_iff.mp fit old member
      exact ⟨old, oldFits.slot_eq_pointer, oldFits, depictsAll_iff.mp below old member⟩
    | .leaf _, fits =>
      cases same
      cases fits

end Follow

/-! ### Every moment -/

/-- A memory comes about from another one by overwriting places of an image and by giving the image
back, in any order. -/
inductive Handled (root : Address) (start : Heap) : Heap → Prop
  | start : Handled root start start
  | poke {heap later : Heap} {path : List Key} {patch : Patch}
    (before : Handled root start heap) (done : heap.poke root path patch = .ok later) :
    Handled root start later
  | release {heap later : Heap} (before : Handled root start heap)
    (done : heap.release (some root) = .ok later) : Handled root start later

/-- What holds of memory with an image while a scope is open. -/
structure Standing (heap : Heap) (root : Address) : Prop where
  shows : ∃ figure, heap.Shows root figure
  settled : heap.Settled
  opened : heap.scopes ≠ []

section Handle

variable {heap later : Heap} {root : Address}

theorem Shows.poke_ok {figure : Figure Address} {path : List Key} {patch : Patch}
    (shows : heap.Shows root figure) (done : heap.poke root path patch = .ok later) :
    ∃ new, figure.poke heap.blocks.size path patch = .ok new ∧
      Rewritten heap patch figure new later := by
  have agrees := shows.agrees_poke path patch
  cases exchanged : figure.poke heap.blocks.size path patch with
  | error fault =>
    rw [exchanged] at agrees
    cases done.symm.trans agrees
  | ok new =>
    rw [exchanged] at agrees
    obtain ⟨_, inMemory, rewritten⟩ := agrees
    cases done.symm.trans inMemory
    exact ⟨new, rfl, rewritten⟩

theorem Standing.poke (standing : heap.Standing root) {path : List Key} {patch : Patch}
    (done : heap.poke root path patch = .ok later) : later.Standing root := by
  obtain ⟨figure, shows⟩ := standing.shows
  obtain ⟨new, exchanged, rewritten⟩ := shows.poke_ok done
  refine ⟨⟨new, shows.of_rewritten exchanged rewritten⟩, rewritten.settled standing.settled, ?_⟩
  rw [rewritten.scopes]
  intro closed
  exact standing.opened (List.modifyHead_eq_nil_iff.mp closed)

theorem Standing.release (standing : heap.Standing root)
    (done : heap.release (some root) = .ok later) : later.Standing root := by
  obtain ⟨figure, shows⟩ := standing.shows
  obtain ⟨scope, outer, opened⟩ := List.exists_cons_of_ne_nil standing.opened
  obtain ⟨_, given, back⟩ := shows.release opened
  cases done.symm.trans given
  refine ⟨⟨figure, shows.of_same fun address _ => back.cell? address⟩,
    shows.settled_release standing.settled done, ?_⟩
  rw [back.scopes]
  exact List.cons_ne_nil _ _

theorem Standing.safe (standing : heap.Standing root) : heap.Safe root := by
  obtain ⟨figure, shows⟩ := standing.shows
  obtain ⟨scope, outer, opened⟩ := List.exists_cons_of_ne_nil standing.opened
  obtain ⟨walked, found, listed⟩ := shows.walk
  obtain ⟨later, done, -⟩ := shows.release opened
  have distinct := listed.nodup_iff.mpr shows.visited_nodup
  constructor
  case leads =>
    intro type slot visits
    obtain ⟨part, rfl, fits, depicts⟩ := shows.part visits
    exact depicts.leadsWell fits
  case load =>
    rw [shows.load]
    rfl
  case release =>
    exact ⟨walked, later, found, distinct, release_eq_giveBackAll found distinct, done⟩
  case balance => exact standing.settled.balance

/-- Whatever is done with an image, it stays where it is. -/
theorem Handled.standing {start : Heap} (handled : Handled root start later)
    (standing : start.Standing root) : later.Standing root := by
  induction handled with
  | start => exact standing
  | poke before done inductionHypothesis => exact inductionHypothesis.poke done
  | release before done inductionHypothesis => exact inductionHypothesis.release done

end Handle

/-! ### Cells that were cut off -/

/-- What is visited of an overwritten image and what was cut off are together what was visited
before and what is new. -/
theorem Shows.visited_poke {heap : Heap} {root : Address} {figure new : Figure Address}
    {path : List Key} {patch : Patch} (shows : heap.Shows root figure)
    (done : figure.poke heap.blocks.size path patch = .ok new) :
    (new.visited .image ++ heap.cutOff root path patch).Perm
      (figure.visited .image ++ patch.marks heap.blocks.size) := by
  unfold Figure.poke at done
  split at done
  · cases done
  · rw [cutOff, ← shows.slot]
    exact (Figure.overwrites_of_ok done).visited shows.depicts shows.fits shows.distinct

/-- Overwrites places of an image one after the other. -/
def pokes (heap : Heap) (root : Address) : List (List Key × Patch) → Except PokeFault Heap
  | [] => .ok heap
  | (path, patch) :: rest =>
    match heap.poke root path patch with
    | .error fault => .error fault
    | .ok later => later.pokes root rest

theorem handled_pokes {root : Address} {start heap later : Heap} (handled : Handled root start heap)
    {changes : List (List Key × Patch)} (done : heap.pokes root changes = .ok later) :
    Handled root start later := by
  induction changes generalizing heap with
  | nil =>
    cases done
    exact handled
  | cons change rest inductionHypothesis =>
    obtain ⟨path, patch⟩ := change
    simp only [pokes] at done
    cases step : heap.poke root path patch with
    | error fault =>
      rw [step] at done
      cases done
    | ok next =>
      rw [step] at done
      exact inductionHypothesis (handled.poke step) done

/-- The cells that are cut off by overwriting places of an image one after the other. -/
def cutOffAll (heap : Heap) (root : Address) : List (List Key × Patch) → List Address
  | [] => []
  | (path, patch) :: rest =>
    match heap.poke root path patch with
    | .error _ => []
    | .ok later => heap.cutOff root path patch ++ later.cutOffAll root rest

/-- An image that was made in a scope was damaged, but not given back yet. What the scope has
outstanding besides what it had outstanding before are the cells that are visited and those that
were cut off. -/
structure Damaged (start : Heap) (scope : Scope) (outer : List Scope) (root : Address)
    (cut : List Address) (heap : Heap) (figure : Figure Address) : Prop where
  shows : heap.Shows root figure
  scopes : heap.scopes = { scope with
    allocations := scope.allocations + (figure.visited .image ++ cut).length } :: outer
  distinct : (figure.visited .image ++ cut).Nodup
  newer : ∀ address ∈ figure.visited .image ++ cut, start.blocks.size ≤ address
  size : start.blocks.size ≤ heap.blocks.size
  owes : ∀ address, heap.owes scope.number address = true ↔
    start.owes scope.number address = true ∨ address ∈ figure.visited .image ++ cut

section Cut

variable {start heap later : Heap} {scope : Scope} {outer : List Scope} {root : Address}
  {cut : List Address} {figure : Figure Address}

theorem lt_size_of_owes {number : Nat} {address : Address}
    (owed : heap.owes number address = true) : address < heap.blocks.size := by
  by_contra beyond
  rw [not_owes_of_size_le (Nat.le_of_not_lt beyond)] at owed
  cases owed

/-- An image that was just made has no cells that were cut off. -/
theorem damaged_store (opened : start.scopes = scope :: outer) (result : Tree.ParseResult) :
    ∃ figure,
      Damaged start scope outer (start.store result).1 [] (start.store result).2 figure := by
  obtain ⟨figure, shows, marks, map⟩ := start.shows_store result
  have visited : figure.visited .image = figure.marks := by
    refine (figure.visited_sublist .image).eq_of_length ?_
    have lengths := congrArg List.length (result.content.visited_figure () result.content_sound)
    rwa [← map (), figure.visited_map, figure.marks_map, List.length_map, List.length_map]
      at lengths
  have innermost := innermost?_of_scopes opened
  refine ⟨figure, shows, ?_, ?_, ?_, ?_, fun address => ?_⟩
  · rw [store_scopes, opened, List.append_nil, visited, marks, List.length_range']
    rfl
  · rw [List.append_nil, visited]
    exact shows.distinct
  · intro address member
    rw [List.append_nil, visited, marks] at member
    exact (List.mem_range'_1.mp member).1
  · rw [size_store]
    exact Nat.le_add_right _ _
  · rw [store_owes innermost, Bool.or_eq_true, decide_eq_true_iff, List.append_nil, visited, marks]

theorem Damaged.innermost? (damaged : Damaged start scope outer root cut heap figure) :
    heap.innermost? = some scope.number := by
  rw [Heap.innermost?, damaged.scopes]
  rfl

/-- Overwriting a place cuts off what is not visited any more. -/
theorem Damaged.poke (damaged : Damaged start scope outer root cut heap figure)
    {path : List Key} {patch : Patch} (done : heap.poke root path patch = .ok later) :
    ∃ new, Damaged start scope outer root (cut ++ heap.cutOff root path patch) later new := by
  obtain ⟨new, exchanged, rewritten⟩ := damaged.shows.poke_ok done
  have innermost := damaged.innermost?
  have visited := damaged.shows.visited_poke exchanged
  -- What is visited and what was cut off so far, together with what is new, is the same afterwards.
  have kept : (new.visited .image ++ (cut ++ heap.cutOff root path patch)).Perm
      ((figure.visited .image ++ cut) ++ patch.marks heap.blocks.size) := by
    refine .trans (.append_left _ List.perm_append_comm) ?_
    rw [← List.append_assoc]
    refine (visited.append_right cut).trans ?_
    rw [List.append_assoc, List.append_assoc]
    exact List.perm_append_comm.append_left _
  have older : ∀ address ∈ figure.visited .image ++ cut, address < heap.blocks.size :=
    fun address member => lt_size_of_owes ((damaged.owes address).mpr (.inr member))
  have fresh : ∀ address ∈ patch.marks heap.blocks.size, address = heap.blocks.size := by
    cases patch <;> simp [Patch.marks]
  refine ⟨new, damaged.shows.of_rewritten exchanged rewritten, ?_, ?_, ?_, ?_, fun address => ?_⟩
  · have fewer : (patch.marks heap.blocks.size).length = patch.cells.length := by
      cases patch <;> rfl
    have length := kept.length_eq.trans List.length_append
    rw [rewritten.scopes, damaged.scopes, length, fewer, ← Nat.add_assoc]
    rfl
  · refine kept.nodup_iff.mpr (List.nodup_append'.mpr ⟨damaged.distinct, ?_, ?_⟩)
    · cases patch <;> simp [Patch.marks]
    · intro address member new
      exact Nat.ne_of_lt (older address member) (fresh address new)
  · intro address member
    rcases List.mem_append.mp (kept.mem_iff.mp member) with old | new
    · exact damaged.newer address old
    · exact fresh address new ▸ damaged.size
  · obtain ⟨exchanged, -, cell, rfl⟩ := rewritten.replaced
    rw [replace_size, allocateAll_size]
    exact damaged.size.trans (Nat.le_add_right _ _)
  · rw [rewritten.owes innermost, Bool.or_eq_true, decide_eq_true_iff, damaged.owes, or_assoc,
      ← List.mem_append, kept.mem_iff]

theorem Damaged.pokes (damaged : Damaged start scope outer root cut heap figure)
    {changes : List (List Key × Patch)} (done : heap.pokes root changes = .ok later) :
    ∃ new, Damaged start scope outer root (cut ++ heap.cutOffAll root changes) later new := by
  induction changes generalizing heap cut figure with
  | nil =>
    cases done
    exact ⟨figure, by rwa [cutOffAll, List.append_nil]⟩
  | cons change rest inductionHypothesis =>
    obtain ⟨path, patch⟩ := change
    simp only [Heap.pokes] at done
    simp only [cutOffAll]
    cases step : heap.poke root path patch with
    | error fault =>
      rw [step] at done
      cases done
    | ok next =>
      rw [step] at done
      obtain ⟨between, after⟩ := damaged.poke step
      rw [← List.append_assoc]
      exact inductionHypothesis after done

/-! ### The first release -/

/-- What it comes to that a damaged image is given back for the first time, and once more right
after that. The first time nothing counts as invalid. The second time nothing counts as released,
and as many cells count as invalid as were released. What is outstanding in the scope in the end is
what was outstanding before the image was made, and what was cut off. -/
structure ReleasedOnce (start : Heap) (number : Nat) (cut : List Address)
    (damaged back again : Heap) : Prop where
  counts : ∃ scope outer released, damaged.scopes = scope :: outer ∧ scope.number = number ∧
    back.scopes = settle scope released 0 :: outer ∧
    again.scopes = settle (settle scope released 0) 0 released :: outer
  distinct : cut.Nodup
  owes : ∀ address, back.owes number address = true ↔
    start.owes number address = true ∨ address ∈ cut
  outstanding : back.outstanding number = start.outstanding number + cut.length

/-- After the first release only what was cut off is left. -/
theorem Damaged.owes_release (damaged : Damaged start scope outer root cut heap figure)
    {current : Scope} {around : List Scope} (same : current.number = scope.number)
    (back : GivenBack heap current around (figure.visited .image) later) (address : Address) :
    later.owes scope.number address = true ↔
      start.owes scope.number address = true ∨ address ∈ cut := by
  obtain ⟨-, -, apart⟩ := List.nodup_append'.mp damaged.distinct
  rw [← same, back.owes, same, Bool.and_eq_true, decide_eq_true_iff, damaged.owes, List.mem_append]
  constructor
  · rintro ⟨other, old | visited | cutOff⟩
    · exact .inl old
    · exact (other visited).elim
    · exact .inr cutOff
  · rintro (old | cutOff)
    · refine ⟨fun visited => ?_, .inl old⟩
      exact Nat.not_lt_of_le (damaged.newer address (List.mem_append_left _ visited))
        (lt_size_of_owes old)
    · exact ⟨fun visited => apart visited cutOff, .inr (.inr cutOff)⟩

theorem Damaged.releasedOnce (damaged : Damaged start scope outer root cut heap figure)
    (opened : start.scopes = scope :: outer) (startSettled : start.Settled)
    (settled : heap.Settled) :
    ∃ back again, heap.release (some root) = .ok back ∧ back.release (some root) = .ok again ∧
      ReleasedOnce start scope.number cut heap back again := by
  obtain ⟨current, openedNow, number, releases, allocations⟩ : ∃ current : Scope,
      heap.scopes = current :: outer ∧ current.number = scope.number ∧
      current.releases = scope.releases ∧
      current.allocations = scope.allocations + (figure.visited .image ++ cut).length :=
    ⟨_, damaged.scopes, rfl, rfl, rfl⟩
  obtain ⟨back, done, givenBack⟩ := damaged.shows.release openedNow
  have owes := damaged.owes_release number givenBack
  have shows := damaged.shows.of_same fun address _ => givenBack.cell? address
  have owed : ∀ address ∈ figure.visited .image, heap.owes current.number address = true :=
    fun address member => number ▸ (damaged.owes address).mpr (.inr (List.mem_append_left _ member))
  have released := givenBack.scopes
  rw [List.countP_eq_length.mpr owed, List.countP_eq_zero.mpr (by simpa using owed)] at released
  obtain ⟨again, doneAgain, givenAgain⟩ := shows.release released
  refine ⟨back, again, done, doneAgain, ⟨current, outer, (figure.visited .image).length, openedNow,
    number, released, ?_⟩, (List.nodup_append'.mp damaged.distinct).2.1, owes, ?_⟩
  · have nothing : ∀ address ∈ figure.visited .image, back.owes current.number address = false := by
      intro address member
      rw [givenBack.owes, decide_eq_false (not_not_intro member), Bool.false_and]
    have scopes := givenAgain.scopes
    simp only [settle] at scopes ⊢
    rw [List.countP_eq_zero.mpr (by simpa using nothing),
      List.countP_eq_length.mpr (by simpa using nothing)] at scopes
    exact scopes
  · -- What was made in the scope and did not come back is outstanding, before and after.
    have before := startSettled.balance scope (opened ▸ List.mem_cons_self)
    have after := (damaged.shows.settled_release settled done).balance (settle current _ 0)
      (released ▸ List.mem_cons_self)
    simp only [settle, number, releases, allocations, List.length_append] at after
    omega

end Cut

/-- A damaged image can leak, but nothing of it is given back twice, and whoever follows it is led
well. -/
theorem store_damaged {heap : Heap} {scope : Scope} {outer : List Scope} (settled : heap.Settled)
    (opened : heap.scopes = scope :: outer) (result : Tree.ParseResult) :
    (∀ later, Handled (heap.store result).1 (heap.store result).2 later →
      later.Safe (heap.store result).1) ∧
    ∀ changes damaged, (heap.store result).2.pokes (heap.store result).1 changes = .ok damaged →
      ∃ back again, damaged.release (some (heap.store result).1) = .ok back ∧
        back.release (some (heap.store result).1) = .ok again ∧
        ReleasedOnce heap scope.number
          ((heap.store result).2.cutOffAll (heap.store result).1 changes) damaged back again := by
  obtain ⟨figure, stored⟩ := damaged_store opened result
  have standing : (heap.store result).2.Standing (heap.store result).1 := by
    refine ⟨⟨figure, stored.shows⟩, settled.store result, ?_⟩
    rw [stored.scopes]
    exact List.cons_ne_nil _ _
  refine ⟨fun later handled => (handled.standing standing).safe, fun changes damaged done => ?_⟩
  obtain ⟨last, after⟩ := stored.pokes done
  exact after.releasedOnce opened settled ((handled_pokes .start done).standing standing).settled

/-- A select from one table whose list is shortened from two texts to one, and which then is no
longer tagged as a select. Its cells are numbered from the inside outwards. -/
theorem store_damaged_select :
    let select : Tree.Statement := .select { Tree.Select.empty with
      fromTable := some (.named none "table")
      selectList := some [.literalString "first", .literalString "second"] }
    let root := (empty.openScope.store (.valid [select])).1
    let stored := (empty.openScope.store (.valid [select])).2
    let changes : List (List Key × Patch) :=
      [([.field "statements", .element 0, .field "selectList"], .integer 1),
        ([.field "statements", .element 0, .field "type"], .integer 2)]
    empty.openScope.Settled ∧ empty.openScope.scopes = [⟨0, 0, 0, 0⟩] ∧
      stored.cutOffAll root changes = [4, 5, 0, 1, 2, 3, 6] ∧
      ∃ damaged back again, stored.pokes root changes = .ok damaged ∧
        ReleasedOnce empty.openScope 0 (stored.cutOffAll root changes) damaged back again := by
  intro select root stored changes
  have done : (stored.pokes root changes).isOk = true := by decide
  have damaged := (store_damaged settled_empty.openScope rfl (.valid [select])).2 changes
  cases found : stored.pokes root changes with
  | error fault =>
    rw [found] at done
    cases done
  | ok later =>
    obtain ⟨back, again, -, -, once⟩ := damaged later found
    exact ⟨settled_empty.openScope, rfl, by decide, later, back, again, rfl, once⟩

end Heap

end SqlImage.Image
