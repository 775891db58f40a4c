/-
This file says that an image is a tree. A place is a field of a record or an
element of an array, and it owns the cell that it leads to. Every cell of an image
but the root is owned by one place of the image alone, no place owns the root, and
whatever can be reached from the root is a cell of the image. The order in which
cells are kept carries the argument: what a cell leads to is older than the cell.
-/

import SqlImage.Proofs.Store
import Mathlib.Data.List.Pairwise
import Mathlib.Data.List.ReduceOption
import Mathlib.Logic.Relation

namespace SqlImage.Image

/-! ### Places -/

/-- The address that a slot leads to. -/
def Slot.leadsTo? : Slot → Option Address
  | .pointer address => address
  | .sequence (.array address) _ => some address
  | _ => none

/-- The address that each place of a cell leads to. -/
def Cell.places : Cell → List (Option Address)
  | .text _ => []
  | .array pointers => pointers
  | .record _ slots => slots.map Slot.leadsTo?

namespace Heap

/-- The address that each place of the cell at an address leads to. -/
def places (heap : Heap) (address : Address) : List (Option Address) :=
  match heap.cell? address with
  | some cell => cell.places
  | none => []

/-- The addresses that the cell at an address leads to. -/
def targets (heap : Heap) (address : Address) : List Address := (heap.places address).reduceOption

/-- A place, which is given by the address of its cell and its position there, leads to a cell. -/
def Owns (heap : Heap) (place : Address × Nat) (address : Address) : Prop :=
  (heap.places place.1)[place.2]? = some (some address)

/-- Some place of a cell leads to a cell. -/
def LeadsTo (heap : Heap) (owner address : Address) : Prop :=
  ∃ position, heap.Owns (owner, position) address

/-- A cell can be reached from another one. -/
def Reaches (heap : Heap) : Address → Address → Prop := Relation.ReflTransGen heap.LeadsTo

theorem mem_targets (heap : Heap) (owner address : Address) :
    address ∈ heap.targets owner ↔ heap.LeadsTo owner address := by
  rw [targets, List.reduceOption_mem_iff, List.mem_iff_getElem?]
  rfl

/-- What can be reached from a root is a tree that takes a range of addresses. -/
structure IsTree (heap : Heap) (root : Address) (start count : Nat) : Prop where
  reaches : ∀ address, heap.Reaches root address ↔ start ≤ address ∧ address < start + count
  /-- Every cell but the root has one owner. -/
  owner : ∀ address, heap.Reaches root address → address ≠ root →
    ∃! place : Address × Nat, heap.Reaches root place.1 ∧ heap.Owns place address
  /-- The root has no owner. -/
  unowned : ∀ place : Address × Nat, heap.Reaches root place.1 → ¬heap.Owns place root
  /-- No cell can be reached from what it leads to. -/
  acyclic : ∀ address, heap.Reaches root address →
    ¬Relation.TransGen heap.LeadsTo address address

end Heap

/-! ### Lists without repetition -/

/-- An address stands at one position of a list that repeats none. -/
theorem position_eq_of_nodup {places : List (Option Address)} (distinct : places.reduceOption.Nodup)
    {address : Address} {first second : Nat} (atFirst : places[first]? = some (some address))
    (atSecond : places[second]? = some (some address)) : first = second := by
  induction places generalizing first second with
  | nil => cases atFirst
  | cons place rest inductionHypothesis =>
    have restDistinct : rest.reduceOption.Nodup := by
      cases place with
      | none => exact distinct
      | some other => exact (List.nodup_cons.mp (List.reduceOption_cons_of_some _ _ ▸ distinct)).2
    have elsewhere : ∀ {position : Nat}, place = some address →
        rest[position]? ≠ some (some address) := by
      rintro position rfl there
      rw [List.reduceOption_cons_of_some] at distinct
      exact (List.nodup_cons.mp distinct).1
        (List.reduceOption_mem_iff.mpr (List.mem_of_getElem? there))
    match first, second with
    | 0, 0 => rfl
    | 0, second + 1 => exact (elsewhere (Option.some.inj atFirst) atSecond).elim
    | first + 1, 0 => exact (elsewhere (Option.some.inj atSecond) atFirst).elim
    | first + 1, second + 1 =>
      exact congrArg (· + 1) (inductionHypothesis restDistinct atFirst atSecond)

/-- Lists that together repeat nothing have nothing in common. -/
theorem eq_of_nodup_flatMap {all : List Address} {lists : Address → List Address}
    (distinct : (all.flatMap lists).Nodup) {first second address : Address} (firstIn : first ∈ all)
    (secondIn : second ∈ all) (inFirst : address ∈ lists first)
    (inSecond : address ∈ lists second) : first = second := by
  by_contra different
  have symmetric : Std.Symm (Function.onFun List.Disjoint lists) :=
    ⟨fun _ _ disjoint _ inFirst inSecond => disjoint inSecond inFirst⟩
  have disjoint := (List.nodup_flatMap.mp distinct).2.forall firstIn secondIn different
  exact disjoint inFirst inSecond

/-! ### Ranges of cells that own one another -/

/-- In a range of addresses each is led to once, by the given addresses and by what the cells of
the range lead to, and what a cell leads to is older. -/
structure Owned (heap : Heap) (leads : List Address) (start count : Nat) : Prop where
  once : (leads ++ (List.range' start count).flatMap heap.targets).Perm (List.range' start count)
  older : ∀ address ∈ List.range' start count, ∀ target ∈ heap.targets address, target < address

namespace Owned

variable {heap : Heap} {first second leads : List Address} {root : Address}
  {start count more : Nat}

theorem nil (heap : Heap) (start : Nat) : Owned heap [] start 0 where
  once := .refl _
  older := by simp

theorem append (left : Owned heap first start count)
    (right : Owned heap second (start + count) more) :
    Owned heap (first ++ second) start (count + more) where
  once := by
    rw [← List.range'_append_1, List.flatMap_append]
    refine .trans ?_ (left.once.append right.once)
    simp only [List.append_assoc]
    exact (List.perm_append_comm_assoc second _ _).append_left first
  older address member := by
    rw [← List.range'_append_1] at member
    exact (List.mem_append.mp member).elim (left.older address) (right.older address)

/-- A cell that leads to all that is not led to so far. -/
theorem close (below : Owned heap leads start count) (owns : heap.targets (start + count) = leads) :
    Owned heap [start + count] start (count + 1) where
  once := by
    rw [List.range'_1_concat, List.flatMap_append, List.flatMap_singleton, owns]
    exact List.perm_append_comm.trans ((List.perm_append_comm.trans below.once).append_right _)
  older address member target led := by
    rw [List.range'_1_concat] at member
    rcases List.mem_append.mp member with inside | last
    · exact below.older address inside target led
    · rw [List.mem_singleton.mp last] at led ⊢
      have inside : target ∈ List.range' start count :=
        below.once.mem_iff.mp (List.mem_append_left _ (owns ▸ led))
      exact (List.mem_range'_1.mp inside).2

/-- What a cell of the range leads to is in the range and older. -/
theorem step (owned : Owned heap leads start count) {owner address : Address}
    (inside : owner ∈ List.range' start count) (led : heap.LeadsTo owner address) :
    address ∈ List.range' start count ∧ address < owner := by
  have target := (heap.mem_targets owner address).mpr led
  refine ⟨owned.once.mem_iff.mp (List.mem_append_right _ ?_), owned.older owner inside _ target⟩
  exact List.mem_flatMap.mpr ⟨owner, inside, target⟩

/-- The range is reached from the only address that is led to from outside, going up from each
address to its owner. -/
theorem reaches_of_mem (owned : Owned heap [root] start count) {address : Address}
    (inside : address ∈ List.range' start count) : heap.Reaches root address := by
  generalize room : start + count - address = less
  induction less using Nat.strong_induction_on generalizing address with
  | _ less inductionHypothesis =>
    rcases List.mem_append.mp (owned.once.mem_iff.mpr inside) with last | led
    · rw [List.mem_singleton.mp last]
      exact .refl
    · obtain ⟨owner, ownerInside, target⟩ := List.mem_flatMap.mp led
      have newer := owned.older owner ownerInside address target
      have below := (List.mem_range'_1.mp inside).2
      have closer : start + count - owner < less := room ▸ Nat.sub_lt_sub_left below newer
      have ownerReached := inductionHypothesis (start + count - owner) closer ownerInside rfl
      exact ownerReached.tail ((heap.mem_targets owner address).mp target)

theorem mem_of_reaches (owned : Owned heap [root] start count) {address : Address}
    (reached : heap.Reaches root address) : address ∈ List.range' start count := by
  induction reached with
  | refl => exact owned.once.mem_iff.mp (List.mem_append_left _ (List.mem_singleton.mpr rfl))
  | tail _ led inductionHypothesis => exact (owned.step inductionHypothesis led).1

/-- A cell leads to older cells only, through any number of places. -/
theorem lt_of_transGen (owned : Owned heap leads start count) {owner address : Address}
    (inside : owner ∈ List.range' start count)
    (led : Relation.TransGen heap.LeadsTo owner address) :
    address ∈ List.range' start count ∧ address < owner := by
  induction led with
  | single led => exact owned.step inside led
  | tail _ led inductionHypothesis =>
    obtain ⟨between, older⟩ := inductionHypothesis
    obtain ⟨last, evenOlder⟩ := owned.step between led
    exact ⟨last, evenOlder.trans older⟩

/-- A range with a single address that is led to from outside is a tree with this root. -/
theorem isTree (owned : Owned heap [root] start count) : heap.IsTree root start count where
  reaches address := by
    rw [← List.mem_range'_1]
    exact ⟨owned.mem_of_reaches, owned.reaches_of_mem⟩
  owner address reached different := by
    have distinct := List.nodup_append'.mp (owned.once.nodup_iff.mpr List.nodup_range')
    have inside := owned.once.mem_iff.mpr (owned.mem_of_reaches reached)
    have led := (List.mem_append.mp inside).resolve_left
      fun last => different (List.mem_singleton.mp last)
    obtain ⟨owner, ownerInside, target⟩ := List.mem_flatMap.mp led
    obtain ⟨position, owns⟩ := (heap.mem_targets owner address).mp target
    refine ⟨(owner, position), ⟨owned.reaches_of_mem ownerInside, owns⟩, ?_⟩
    rintro ⟨other, otherPosition⟩ ⟨otherReached, otherOwns⟩
    have otherTarget := (heap.mem_targets other address).mpr ⟨otherPosition, otherOwns⟩
    obtain rfl := eq_of_nodup_flatMap distinct.2.1 (owned.mem_of_reaches otherReached) ownerInside
      otherTarget target
    have placesDistinct := (List.nodup_flatMap.mp distinct.2.1).1 other ownerInside
    exact Prod.ext rfl (position_eq_of_nodup placesDistinct otherOwns owns)
  unowned place reached owns := by
    have distinct := List.nodup_append'.mp (owned.once.nodup_iff.mpr List.nodup_range')
    refine distinct.2.2 (List.mem_singleton.mpr rfl) (List.mem_flatMap.mpr ⟨place.1, ?_, ?_⟩)
    · exact owned.mem_of_reaches reached
    · exact (heap.mem_targets place.1 root).mpr ⟨place.2, owns⟩
  acyclic address reached cycle :=
    Nat.lt_irrefl _ (owned.lt_of_transGen (owned.mem_of_reaches reached) cycle).2

end Owned

/-! ### The owners in an image -/

theorem ElementsSound.each {target : Target} {contents : List Content}
    (sound : ElementsSound target contents) :
    ∀ content ∈ contents, ∃ type, content.Sound type := by
  induction contents with
  | nil => simp
  | cons head tail inductionHypothesis =>
    intro content member
    rcases List.mem_cons.mp member with rfl | later
    · exact ⟨_, sound.1.2⟩
    · exact inductionHypothesis sound.2 content later

theorem FieldsSound.each {kind : Kind} {fields : List Field} {contents : List Content}
    (sound : FieldsSound kind fields contents) :
    ∀ content ∈ contents, ∃ type, content.Sound type := by
  induction fields generalizing contents with
  | nil =>
    cases contents with
    | nil => simp
    | cons head tail => exact sound.elim
  | cons field fields inductionHypothesis =>
    cases contents with
    | nil => exact sound.elim
    | cons head tail =>
      intro content member
      rcases List.mem_cons.mp member with rfl | later
      · exact ⟨_, sound.1.1⟩
      · exact inductionHypothesis sound.2 content later

section Held

variable {heap : Heap}

/-- The elements of an array lead to what their slots led to. -/
theorem HoldsAll.map_target? {target : Target} {contents : List Content} {slots : List Slot}
    {start : Address} (held : HoldsAll heap contents slots start)
    (sound : ElementsSound target contents) :
    slots.map Slot.target? = slots.map Slot.leadsTo? := by
  induction contents generalizing slots start with
  | nil =>
    cases held
    rfl
  | cons head tail inductionHypothesis =>
    cases held with
    | cons first others =>
      rw [List.map_cons, List.map_cons, inductionHypothesis others sound.2,
        first.slot_eq_pointer sound.1.2]
      rfl

theorem Heap.targets_eq_flatMap {address : Address} {cell : Cell} {slots : List Slot}
    (there : heap.cell? address = some cell) (places : cell.places = slots.map Slot.leadsTo?) :
    heap.targets address = slots.flatMap (·.leadsTo?.toList) := by
  simp only [Heap.targets, Heap.places, there, places, List.reduceOption,
    List.filterMap_eq_flatMap_toList, List.flatMap_map, id]

mutual

/-- The cells of a sound content that memory holds own one another, up to what the slot leads
to. -/
theorem Holds.owned {content : Content} {slot : Slot} {start : Address} {type : FieldType} :
    Holds heap content slot start → content.Sound type →
    Owned heap slot.leadsTo?.toList start content.cells
  | .record below cell, sound => by
    match type, sound with
    | .pointer (.node kind), sound =>
      rw [Content.cells, Nat.add_comm 1]
      exact (below.owned sound.2.each).close (Heap.targets_eq_flatMap cell rfl)
  | @Holds.list _ head tail slots _ below cell, sound => by
    match type, sound with
    | .sequence target, sound =>
      rw [Content.cells, Nat.add_assoc 1, Nat.add_comm 1]
      have owned := below.owned sound.each
      exact owned.close (Heap.targets_eq_flatMap cell (below.map_target? sound))
  | .text cell, _ => (Owned.nil heap _).close (@Heap.targets_eq_flatMap _ _ _ [] cell rfl)
  | .tag _ _, _ => .nil _ _
  | .flag _ _, _ => .nil _ _
  | .place _ _, _ => .nil _ _
  | .int _ _, _ => .nil _ _
  | .size _ _, _ => .nil _ _
  | .double _ _, _ => .nil _ _
  | .absent _, _ => .nil _ _
  | .noList _, _ => .nil _ _
  | .emptyList _, _ => .nil _ _

theorem HoldsAll.owned {contents : List Content} {slots : List Slot} {start : Address} :
    HoldsAll heap contents slots start → (∀ content ∈ contents, ∃ type, content.Sound type) →
    Owned heap (slots.flatMap (·.leadsTo?.toList)) start (contentsCells contents)
  | .nil _, _ => .nil _ _
  | .cons first others, sound => by
    obtain ⟨type, firstSound⟩ := sound _ List.mem_cons_self
    rw [List.flatMap_cons, contentsCells]
    exact (first.owned firstSound).append
      (others.owned fun content member => sound content (List.mem_cons_of_mem _ member))

end

end Held

/-- An image that was kept is a tree. -/
theorem Heap.isTree_store (heap : Heap) (result : Tree.ParseResult) :
    (heap.store result).2.IsTree (heap.store result).1 heap.blocks.size result.content.cells :=
  ((Heap.holds_store (KeptIn.refl _)).owned result.content_sound).isTree

end SqlImage.Image
