/-
This file says that the memory of a session follows its book. A scope has counted what
its account says, and an image that can still be named is there, with its cells made
and given back where the book says so. Every step keeps it that way. So every scope
reports its account, however the steps of a session are nested.
-/

import SqlImage.Proofs.Account
import SqlImage.Proofs.Kept

namespace SqlImage.Session

open SqlImage.Image SqlImage.Tree

/-! ### Names -/

theorem lookup_filter_ne {α : Type} (entries : List (String × α)) {name other : String}
    (different : other ≠ name) :
    (entries.filter (·.1 ≠ name)).lookup other = entries.lookup other := by
  induction entries with
  | nil => rfl
  | cons entry rest inductionHypothesis =>
    obtain ⟨key, value⟩ := entry
    by_cases same : key = name
    · have skipped : (other == key) = false := by simp [same, different]
      rw [List.filter_cons_of_neg (by simp [same]), List.lookup_cons, skipped,
        inductionHypothesis]
    · rw [List.filter_cons_of_pos (by simp [same]), List.lookup_cons, List.lookup_cons,
        inductionHypothesis]

theorem lookup_map_snd {α β : Type} (entries : List (String × α)) (change : α → β)
    (name : String) :
    (entries.map fun entry => (entry.1, change entry.2)).lookup name =
      (entries.lookup name).map change := by
  induction entries with
  | nil => rfl
  | cons entry rest inductionHypothesis =>
    obtain ⟨key, value⟩ := entry
    rw [List.map_cons, List.lookup_cons, List.lookup_cons, inductionHypothesis]
    cases name == key <;> rfl

theorem lookup_setHeld_self (state : State) (name : String) (held : Held) :
    (state.setHeld name held).slots.lookup name = some held := by
  simp [State.setHeld]

theorem lookup_setHeld_of_ne (state : State) {name other : String} (held : Held)
    (different : other ≠ name) :
    (state.setHeld name held).slots.lookup other = state.slots.lookup other := by
  have skipped : (other == name) = false := by simp [different]
  rw [State.setHeld, List.lookup_cons, skipped]
  exact lookup_filter_ne state.slots different

/-! ### Memory and book -/

/-- A scope has counted what its log says. -/
structure Counted (made : Nat) (scope : Scope) (log : List Event) : Prop where
  allocations : scope.allocations = cellsOf (madeIn log)
  releases : scope.releases = cellsOf (givenIn log)
  invalidReleases : scope.invalidReleases = invalidIn log
  once : (madeIn log).Nodup
  numbered : ∀ event ∈ log, event.tree.number < made

/-- The log of a scope says that an image was made in the scope and given back there if this is
so. -/
def Logged (held : Held) (tree : Made) (scope : Scope) (log : List Event) : Prop :=
  (held.scope = some scope.number ↔ .made tree ∈ log) ∧
    (held.scope = some scope.number → (held.released = true ↔ .released tree ∈ log))

/-- A named image can still be used. -/
structure Usable (heap : Heap) (book : Book) (held : Held) (tree : Made) : Prop where
  notGone : tree ∉ book.gone
  present : held.gone = false
  kept : Kept heap held.root tree.cells held.scope held.released
  logged : List.Forall₂ (Logged held tree) heap.scopes book.logs

/-- A named image is the one of a tree in the book. -/
structure Knows (heap : Heap) (book : Book) (held : Held) (tree : Made) : Prop where
  numbered : tree.number < book.made
  bound : held.root < heap.blocks.size
  room : Room held.root tree.cells
  status : (tree ∈ book.gone ∧ heap.cell? held.root = none) ∨ Usable heap book held tree

/-- A name stands for an image in memory and for a tree in the book. -/
def Named (state : State) (book : Book) (name : String) (held : Held) (tree : Made) : Prop :=
  state.slots.lookup name = some held ∧ book.names.lookup name = some tree

/-- Two images with roots at the given addresses are of different trees and share no cell. -/
def Apart (first second : Address) (firstTree secondTree : Made) : Prop :=
  firstTree.number ≠ secondTree.number ∧
    (extent first firstTree.cells).Disjoint (extent second secondTree.cells)

theorem Apart.symm {first second : Address} {firstTree secondTree : Made}
    (apart : Apart first second firstTree secondTree) :
    Apart second first secondTree firstTree :=
  ⟨apart.1.symm, fun _ inSecond inFirst => apart.2 inFirst inSecond⟩

/-- The memory of a session follows its book. -/
structure Follows (state : State) (book : Book) : Prop where
  settled : state.heap.Settled
  counted : List.Forall₂ (Counted book.made) state.heap.scopes book.logs
  gone : ∀ tree ∈ book.gone, tree.number < book.made
  named : ∀ name, (state.slots.lookup name).isSome = (book.names.lookup name).isSome
  knows : ∀ {name held tree}, Named state book name held tree → Knows state.heap book held tree
  apart : ∀ {name other first second firstTree secondTree}, name ≠ other →
    Named state book name first firstTree → Named state book other second secondTree →
    Apart first.root second.root firstTree secondTree

theorem follows_start : Follows .start .start where
  settled := Heap.settled_empty
  counted := .nil
  gone := nofun
  named _ := rfl
  knows named := nomatch named.1
  apart _ named := nomatch named.1

/-! ### Other images -/

theorem Logged.of_other {held : Held} {tree : Made} {scope later : Scope} {log : List Event}
    {event : Event} (logged : Logged held tree scope log) (other : event.tree ≠ tree)
    (number : later.number = scope.number) : Logged held tree later (event :: log) := by
  have notMade : Event.made tree ≠ event := fun same => other (same ▸ rfl)
  have notReleased : Event.released tree ≠ event := fun same => other (same ▸ rfl)
  simpa only [Logged, number, List.mem_cons, notMade, notReleased, false_or] using logged

theorem Knows.lt_size_of_mem_extent {heap : Heap} {book : Book} {held : Held} {tree : Made}
    (knows : Knows heap book held tree) {address : Address}
    (member : address ∈ extent held.root tree.cells) : address < heap.blocks.size :=
  Nat.lt_of_lt_of_le (knows.room.mem_extent.mp member).2 knows.bound

/-- An image is as it was after a step that is not about it. -/
theorem Knows.frame {heap later : Heap} {book next : Book} {held : Held} {tree : Made}
    (knows : Knows heap book held tree) (made : book.made ≤ next.made)
    (size : heap.blocks.size ≤ later.blocks.size)
    (blocks : ∀ address ∈ extent held.root tree.cells, later.block? address = heap.block? address)
    (gone : tree ∈ next.gone ↔ tree ∈ book.gone)
    (logged : List.Forall₂ (Logged held tree) heap.scopes book.logs →
      List.Forall₂ (Logged held tree) later.scopes next.logs) :
    Knows later next held tree where
  numbered := Nat.lt_of_lt_of_le knows.numbered made
  bound := Nat.lt_of_lt_of_le knows.bound size
  room := knows.room
  status := by
    rcases knows.status with ⟨wasGone, nothing⟩ | usable
    · left
      refine ⟨gone.mpr wasGone, ?_⟩
      rw [Heap.cell?, blocks held.root knows.room.root_mem]
      exact nothing
    · right
      exact ⟨fun isGone => usable.notGone (gone.mp isGone), usable.present,
        usable.kept.of_blocks size blocks, logged usable.logged⟩

/-- Images stay apart if a name comes to stand for an image that is apart from all others. -/
theorem Follows.apart_of {state later : State} {book next : Book} (follows : Follows state book)
    (name : String) {root : Address} {tree : Made}
    (before : ∀ {other held otherTree}, Named later next other held otherTree →
      (other = name ∧ held.root = root ∧ otherTree = tree) ∨
        (other ≠ name ∧ Named state book other held otherTree))
    (new : ∀ {other held otherTree}, other ≠ name → Named state book other held otherTree →
      Apart root held.root tree otherTree)
    {first second : String} {firstHeld secondHeld : Held} {firstTree secondTree : Made}
    (different : first ≠ second) (firstNamed : Named later next first firstHeld firstTree)
    (secondNamed : Named later next second secondHeld secondTree) :
    Apart firstHeld.root secondHeld.root firstTree secondTree := by
  rcases before firstNamed with ⟨rfl, rfl, rfl⟩ | ⟨firstOther, firstOld⟩
  · rcases before secondNamed with ⟨rfl, -⟩ | ⟨secondOther, secondOld⟩
    · exact (different rfl).elim
    · exact new secondOther secondOld
  · rcases before secondNamed with ⟨rfl, rfl, rfl⟩ | ⟨-, secondOld⟩
    · exact (new firstOther firstOld).symm
    · exact follows.apart different firstOld secondOld

theorem Counted.mono {made more : Nat} {scope : Scope} {log : List Event}
    (counted : Counted made scope log) (le : made ≤ more) : Counted more scope log :=
  { counted with numbered := fun event member =>
      Nat.lt_of_lt_of_le (counted.numbered event member) le }

/-- Nothing has happened yet to the next tree. -/
theorem Counted.fresh {made cells : Nat} {scope : Scope} {log : List Event}
    (counted : Counted made scope log) : ∀ event ∈ log, event.tree ≠ ⟨made, cells⟩ :=
  fun event member same => Nat.lt_irrefl made
    (by simpa only [same] using counted.numbered event member)

/-! ### Making an image -/

/-- The innermost scope enters a tree that was just made. -/
theorem Counted.create {made cells : Nat} {scope : Scope} {log : List Event}
    (counted : Counted made scope log) :
    Counted (made + 1) { scope with allocations := scope.allocations + cells }
      (.made ⟨made, cells⟩ :: log) := by
  constructor
  case allocations => rw [madeIn, cellsOf_cons, ← counted.allocations, Nat.add_comm]
  case releases =>
    rw [givenIn_made fun member => counted.fresh _ member rfl]
    exact counted.releases
  case invalidReleases => exact counted.invalidReleases
  case once =>
    exact List.nodup_cons.mpr
      ⟨fun member => counted.fresh _ (mem_madeIn.mp member) rfl, counted.once⟩
  case numbered =>
    refine List.forall_mem_cons.mpr ⟨Nat.lt_succ_self made, fun event member => ?_⟩
    exact Nat.lt_succ_of_lt (counted.numbered event member)

theorem forall₂_modifyHead {α β : Type} {before after : α → β → Prop} {first : α → α}
    {second : β → β} {left : List α} {right : List β} (all : List.Forall₂ before left right)
    (head : ∀ one other, before one other → after (first one) (second other))
    (tail : ∀ one other, before one other → after one other) :
    List.Forall₂ after (left.modifyHead first) (right.modifyHead second) := by
  cases all with
  | nil => exact .nil
  | cons top rest => exact .cons (head _ _ top) (rest.imp tail)

/-- A tree that was just made is in the log of the innermost scope and in no other. -/
theorem logged_create {made cells : Nat} {scopes : List Scope} {logs : List (List Event)}
    {change : Scope → Scope} (number : ∀ scope, (change scope).number = scope.number)
    (counted : List.Forall₂ (Counted made) scopes logs)
    (apart : ∀ {scope outer}, scopes = scope :: outer → ∀ other ∈ outer,
      scope.number ≠ other.number) (root : Address) (origin : ParseResult) :
    List.Forall₂ (Logged ⟨root, origin, scopes.head?.map (·.number), false, false⟩ ⟨made, cells⟩)
      (scopes.modifyHead change) (logs.modifyHead (.made ⟨made, cells⟩ :: ·)) := by
  cases counted with
  | nil => exact .nil
  | @cons scope log outer logs top rest =>
    refine .cons ⟨by simp [number], fun _ => ?_⟩ ?_
    · have notReleased : Event.released ⟨made, cells⟩ ∉ log :=
        fun member => top.fresh _ member rfl
      simp [notReleased]
    · refine ((List.forall₂_and_left _ _).mpr ⟨apart rfl, rest⟩).imp fun other otherLog both => ?_
      obtain ⟨different, otherCounted⟩ := both
      have notMade : Event.made ⟨made, cells⟩ ∉ otherLog :=
        fun member => otherCounted.fresh _ member rfl
      simp [Logged, different, notMade]

/-- After an image was made, a name stands for the new image or for what it stood for before. -/
theorem named_create {state : State} {book : Book} {name : String} {result : ParseResult}
    {other : String} {held : Held} {tree : Made}
    (named : Named (state.create name result) (book.create name result) other held tree) :
    (other = name ∧ tree = ⟨book.made, result.cells⟩ ∧
      held = ⟨(state.heap.store result).1, result, state.heap.innermost?, false, false⟩) ∨
    (other ≠ name ∧ Named state book other held tree) := by
  obtain ⟨heldFound, treeFound⟩ := named
  by_cases same : other = name
  · subst same
    rw [Book.create, List.lookup_cons_self] at treeFound
    rw [State.create, lookup_setHeld_self] at heldFound
    cases heldFound
    cases treeFound
    exact .inl ⟨rfl, rfl, rfl⟩
  · have skipped : (other == name) = false := by simp [same]
    rw [State.create, lookup_setHeld_of_ne _ _ same] at heldFound
    rw [Book.create, List.lookup_cons, skipped] at treeFound
    exact .inr ⟨same, heldFound, treeFound⟩

/-- Making an image keeps memory and book together. -/
theorem Follows.create {state : State} {book : Book} (follows : Follows state book)
    (name : String) (result : ParseResult) :
    Follows (state.create name result) (book.create name result) := by
  have range := state.heap.extent_store result
  have stored := state.heap.kept_store result
  have size : state.heap.blocks.size ≤ (state.heap.store result).2.blocks.size := by
    rw [Heap.size_store]
    exact Nat.le_add_right _ _
  have fresh : ∀ cells, (⟨book.made, cells⟩ : Made) ∉ book.gone := fun cells member =>
    Nat.lt_irrefl _ (follows.gone _ member)
  have older : ∀ {name held tree}, Named state book name held tree →
      ∀ address ∈ extent held.root tree.cells, address < state.heap.blocks.size :=
    fun named _ member => (follows.knows named).lt_size_of_mem_extent member
  have apart : ∀ {name held tree}, Named state book name held tree →
      Apart (state.heap.store result).1 held.root ⟨book.made, result.cells⟩ tree := by
    intro name held tree named
    refine ⟨(Nat.ne_of_lt (follows.knows named).numbered).symm, fun address new old => ?_⟩
    rw [range] at new
    exact Nat.not_lt_of_le (List.mem_range'_1.mp new).1 (older named address old)
  constructor
  case settled => exact follows.settled.store result
  case counted =>
    show List.Forall₂ _ (state.heap.store result).2.scopes _
    rw [Heap.store_scopes]
    exact forall₂_modifyHead follows.counted (fun _ _ counted => counted.create)
      fun _ _ counted => counted.mono (Nat.le_succ _)
  case gone => exact fun tree member => Nat.lt_succ_of_lt (follows.gone tree member)
  case named =>
    intro other
    by_cases same : other = name
    · subst same
      rw [State.create, lookup_setHeld_self, Book.create, List.lookup_cons_self]
      rfl
    · have skipped : (other == name) = false := by simp [same]
      rw [State.create, lookup_setHeld_of_ne _ _ same, Book.create, List.lookup_cons, skipped]
      exact follows.named other
  case knows =>
    intro other held tree named
    rcases named_create named with ⟨rfl, rfl, rfl⟩ | ⟨-, old⟩
    -- The new image is in the log of the innermost scope, where its cells were made.
    · refine ⟨Nat.lt_succ_self _, stored.lt_size, stored.room, .inr ⟨fresh _, rfl, stored, ?_⟩⟩
      show List.Forall₂ _ (state.heap.store result).2.scopes _
      rw [Heap.store_scopes]
      refine logged_create ?_ follows.counted follows.settled.number_ne _ _
      exact fun _ => rfl
    -- An older image is of another tree, so the new event says nothing about it.
    · have different : (⟨book.made, result.cells⟩ : Made) ≠ tree := fun same =>
        (apart old).1 (congrArg Made.number same)
      refine (follows.knows old).frame (Nat.le_succ _) size
        (fun address member => Heap.store_block?_of_lt (older old address member)) Iff.rfl ?_
      intro logged
      show List.Forall₂ _ (state.heap.store result).2.scopes _
      rw [Heap.store_scopes]
      exact forall₂_modifyHead logged (fun _ _ logged => logged.of_other different rfl)
        fun _ _ logged => logged
  case apart =>
    refine follows.apart_of name (fun named => ?_) fun _ named => apart named
    rcases named_create named with ⟨same, rfl, rfl⟩ | old
    · exact .inl ⟨same, rfl, rfl⟩
    · exact .inr old

/-! ### Giving back an image -/

/-- After the knowledge of a named image has changed, other names stand for what they stood for. -/
theorem named_setHeld {state : State} {book next : Book} {heap : Heap} {name : String}
    {changed : Held} {tree : Made} (names : next.names = book.names)
    (found : book.names.lookup name = some tree) {other : String} {otherHeld : Held}
    {otherTree : Made}
    (named : Named (State.setHeld { state with heap } name changed) next other otherHeld
      otherTree) :
    (other = name ∧ otherHeld = changed ∧ otherTree = tree) ∨
      (other ≠ name ∧ Named state book other otherHeld otherTree) := by
  obtain ⟨heldFound, treeFound⟩ := named
  rw [names] at treeFound
  by_cases same : other = name
  · subst same
    rw [lookup_setHeld_self] at heldFound
    cases heldFound
    exact .inl ⟨rfl, rfl, Option.some.inj (treeFound.symm.trans found)⟩
  · rw [lookup_setHeld_of_ne _ _ same] at heldFound
    exact .inr ⟨same, heldFound, treeFound⟩

/-- Memory and book stay together when something is done with one image and its tree only. -/
theorem Follows.setHeld {state : State} {book next : Book} (follows : Follows state book)
    {heap : Heap} {name : String} {held changed : Held} {tree : Made}
    (named : Named state book name held tree) (root : changed.root = held.root)
    (made : next.made = book.made) (names : next.names = book.names)
    (settled : heap.Settled) (counted : List.Forall₂ (Counted next.made) heap.scopes next.logs)
    (gone : ∀ other ≠ tree, (other ∈ next.gone ↔ other ∈ book.gone))
    (size : heap.blocks.size = state.heap.blocks.size)
    (blocks : ∀ address ∉ extent held.root tree.cells,
      heap.block? address = state.heap.block? address)
    (logged : ∀ other otherTree, otherTree ≠ tree →
      List.Forall₂ (Logged other otherTree) state.heap.scopes book.logs →
      List.Forall₂ (Logged other otherTree) heap.scopes next.logs)
    (status : (tree ∈ next.gone ∧ heap.cell? changed.root = none) ∨
      Usable heap next changed tree) :
    Follows (State.setHeld { state with heap } name changed) next := by
  have knows := follows.knows named
  constructor
  case settled => exact settled
  case counted => exact counted
  case gone =>
    intro other member
    rw [made]
    by_cases same : other = tree
    · exact same ▸ knows.numbered
    · exact follows.gone other ((gone other same).mp member)
  case named =>
    intro other
    rw [names]
    by_cases same : other = name
    · subst same
      rw [lookup_setHeld_self, named.2]
      rfl
    · rw [lookup_setHeld_of_ne _ _ same]
      exact follows.named other
  case knows =>
    intro other otherHeld otherTree otherNamed
    rcases named_setHeld names named.2 otherNamed with ⟨rfl, rfl, rfl⟩ | ⟨different, old⟩
    · refine ⟨made ▸ knows.numbered, ?_, root ▸ knows.room, status⟩
      rw [root]
      exact size ▸ knows.bound
    · have apart := follows.apart different old named
      have otherTreeDifferent : otherTree ≠ tree := fun same => apart.1 (congrArg Made.number same)
      exact (follows.knows old).frame (Nat.le_of_eq made.symm) (Nat.le_of_eq size.symm)
        (fun address member => blocks address fun inside => apart.2 member inside)
        (gone otherTree otherTreeDifferent) (logged otherHeld otherTree otherTreeDifferent)
  case apart =>
    refine follows.apart_of name (fun otherNamed => ?_) fun different old =>
      follows.apart different.symm named old
    rcases named_setHeld names named.2 otherNamed with ⟨same, rfl, rfl⟩ | old
    · exact .inl ⟨same, root, rfl⟩
    · exact .inr old

/-- The cells that a scope has outstanding are those of a tree that was made there and not given
back. -/
theorem Logged.owes_iff {held : Held} {tree : Made} {scope : Scope} {log : List Event}
    (logged : Logged held tree scope log) :
    (held.scope = some scope.number ∧ held.released = false) ↔
      (.made tree ∈ log ∧ .released tree ∉ log) := by
  constructor
  · rintro ⟨made, unreleased⟩
    refine ⟨logged.1.mp made, fun member => ?_⟩
    rw [(logged.2 made).mpr member] at unreleased
    cases unreleased
  · rintro ⟨member, notReleased⟩
    have made := logged.1.mpr member
    exact ⟨made, Bool.eq_false_iff.mpr fun released => notReleased ((logged.2 made).mp released)⟩

/-- The innermost scope enters a tree that was given back. -/
theorem Counted.release {made : Nat} {held : Held} {tree : Made} {scope : Scope}
    {log : List Event} (counted : Counted made scope log) (logged : Logged held tree scope log)
    (numbered : tree.number < made) :
    Counted made (if held.scope = some scope.number ∧ held.released = false then
      Heap.settle scope tree.cells 0 else Heap.settle scope 0 tree.cells)
      (.released tree :: log) := by
  rw [if_congr logged.owes_iff rfl rfl]
  constructor
  case allocations =>
    rw [madeIn, ← counted.allocations]
    split <;> rfl
  case releases =>
    rw [cellsOf_givenIn_released counted.once, ← counted.releases]
    split
    · exact Nat.add_comm _ _
    · exact (Nat.zero_add _).symm
  case invalidReleases =>
    rw [invalidIn, ← counted.invalidReleases]
    split
    · exact (Nat.zero_add _).symm
    · exact Nat.add_comm _ _
  case once => exact counted.once
  case numbered => exact List.forall_mem_cons.mpr ⟨numbered, counted.numbered⟩

/-- The image that was given back is marked where it was made. -/
theorem Logged.release {held : Held} {tree : Made} {scope later : Scope} {log : List Event}
    (logged : Logged held tree scope log) (number : later.number = scope.number) :
    Logged { held with released := held.released || decide (held.scope = some scope.number) } tree
      later (.released tree :: log) := by
  refine ⟨?_, fun made => ?_⟩
  · rw [number, logged.1]
    simp
  · have here : held.scope = some scope.number := number ▸ made
    simp [here]

theorem Logged.release_elsewhere {held : Held} {tree : Made} {scope : Scope} {log : List Event}
    (logged : Logged held tree scope log) {number : Nat} (other : number ≠ scope.number) :
    Logged { held with released := held.released || decide (held.scope = some number) } tree
      scope log := by
  refine ⟨logged.1, fun made => ?_⟩
  have elsewhere : held.scope ≠ some number := fun same =>
    other (Option.some.inj (same.symm.trans made))
  simpa [elsewhere] using logged.2 made

/-- The state after an image that can be used was given back. -/
theorem release_eq_ok {state : State} {name : String} {held : Held} {heap : Heap}
    (found : state.slots.lookup name = some held) (present : held.gone = false)
    (given : state.heap.release (some held.root) = .ok heap) :
    state.release name = .ok (State.setHeld { state with heap } name { held with
      released := held.released || decide (held.scope = state.heap.innermost?) }) := by
  have usable : state.held? name = .ok held := by
    simp [State.held?, found, present]
  simp only [State.release, usable, bind, Except.bind, given]
  rfl

/-- Without a scope an image is gone at once when it is given back. -/
theorem Follows.release_unscoped {state : State} {book : Book} (follows : Follows state book)
    {name : String} {held : Held} {tree : Made} (named : Named state book name held tree)
    (usable : Usable state.heap book held tree) (unscoped : state.heap.scopes = []) :
    ∃ later, state.release name = .ok later ∧ Follows later (book.release name) := by
  have logs : book.logs = [] := by
    have counted := follows.counted
    rwa [unscoped, List.forall₂_nil_left_iff] at counted
  obtain ⟨heap, given, scopes, -, size, nothing, blocks⟩ := usable.kept.release_unscoped unscoped
  have entered : book.release name = { book with gone := tree :: book.gone } := by
    simp only [Book.release, named.2, if_neg usable.notGone, logs]
  refine ⟨_, release_eq_ok named.1 usable.present given, ?_⟩
  rw [entered]
  refine follows.setHeld named rfl rfl rfl (usable.kept.settled_release follows.settled given) ?_
    (fun other different => ?_) size blocks (fun other otherTree different _ => ?_)
    (.inl ⟨List.mem_cons_self, nothing⟩)
  · rw [scopes, logs]
    exact .nil
  · simp [different]
  · rw [scopes, logs]
    exact .nil

/-- In a scope an image stays when it is given back, and only the scope that made it can mark it
as given back. -/
theorem Follows.release_scoped {state : State} {book : Book} (follows : Follows state book)
    {name : String} {held : Held} {tree : Made} (named : Named state book name held tree)
    (usable : Usable state.heap book held tree) {scope : Scope} {outer : List Scope}
    (opened : state.heap.scopes = scope :: outer) :
    ∃ later, state.release name = .ok later ∧ Follows later (book.release name) := by
  have counted := follows.counted
  have logged := usable.logged
  rw [opened] at counted logged
  obtain ⟨log, logs, top, rest, shown⟩ := List.forall₂_cons_left_iff.mp counted
  rw [shown, List.forall₂_cons] at logged
  obtain ⟨heap, given, scopes, -, size, kept, blocks⟩ := usable.kept.release_scoped opened
  have entered : book.release name = { book with logs := (.released tree :: log) :: logs } := by
    simp only [Book.release, named.2, if_neg usable.notGone, shown]
  refine ⟨_, release_eq_ok named.1 usable.present given, ?_⟩
  rw [entered, Heap.innermost?_of_scopes opened]
  have apart := follows.settled.number_ne opened
  have number : (if held.scope = some scope.number ∧ held.released = false then
      Heap.settle scope tree.cells 0 else Heap.settle scope 0 tree.cells).number =
      scope.number := by
    split <;> rfl
  refine follows.setHeld named rfl rfl rfl (usable.kept.settled_release follows.settled given) ?_
    (fun _ _ => Iff.rfl) size blocks (fun other otherTree different before => ?_)
    (.inr ⟨usable.notGone, usable.present, kept, ?_⟩)
  · rw [scopes]
    exact .cons (top.release logged.1 (follows.knows named).numbered) rest
  · rw [opened, shown, List.forall₂_cons] at before
    rw [scopes]
    exact .cons (before.1.of_other (Ne.symm different) number) before.2
  -- Only the innermost scope can mark it, so the outer ones see no difference.
  · rw [scopes]
    refine .cons (logged.1.release number) ?_
    exact ((List.forall₂_and_left _ _).mpr ⟨apart, logged.2⟩).imp
      fun other otherLog both => both.2.release_elsewhere both.1

/-- Giving back an image that can be used keeps memory and book together. -/
theorem Follows.release_usable {state : State} {book : Book} (follows : Follows state book)
    {name : String} {held : Held} {tree : Made} (named : Named state book name held tree)
    (usable : Usable state.heap book held tree) :
    ∃ later, state.release name = .ok later ∧ Follows later (book.release name) := by
  cases opened : state.heap.scopes with
  | nil => exact follows.release_unscoped named usable opened
  | cons scope outer => exact follows.release_scoped named usable opened

/-- Giving back an image by its name keeps memory and book together, or fails in both. -/
theorem Follows.release {state : State} {book : Book} (follows : Follows state book)
    (name : String) :
    (∃ failure, state.release name = .error failure ∧ book.release name = book) ∨
      ∃ later, state.release name = .ok later ∧ Follows later (book.release name) := by
  have together := follows.named name
  cases heldFound : state.slots.lookup name with
  | none =>
    rw [heldFound, Option.isSome_none, eq_comm, Option.isSome_eq_false_iff,
      Option.isNone_iff_eq_none] at together
    refine .inl ⟨.noSuchSlot, ?_, ?_⟩
    · simp only [State.release, State.held?, heldFound, bind, Except.bind]
    · simp only [Book.release, together]
  | some held =>
    rw [heldFound, Option.isSome_some, eq_comm, Option.isSome_iff_exists] at together
    obtain ⟨tree, treeFound⟩ := together
    have named : Named state book name held tree := ⟨heldFound, treeFound⟩
    rcases (follows.knows named).status with ⟨gone, nothing⟩ | usable
    · refine .inl ⟨.slotGone, ?_, ?_⟩
      · cases away : held.gone
        · simp [State.release, State.held?, heldFound, away, bind, Except.bind,
            Heap.release_of_gone nothing]
          rfl
        · simp [State.release, State.held?, heldFound, away, bind, Except.bind]
      · simp only [Book.release, treeFound, if_pos gone]
    · exact .inr (follows.release_usable named usable)

/-! ### Opening and closing scopes -/

/-- Opening a scope keeps memory and book together. -/
theorem Follows.openScope {state : State} {book : Book} (follows : Follows state book) :
    Follows state.openScope book.openScope where
  settled := follows.settled.openScope
  counted := .cons ⟨rfl, rfl, rfl, .nil, nofun⟩ follows.counted
  gone := follows.gone
  named := follows.named
  knows := by
    intro name held tree named
    have knows := follows.knows named
    refine { knows with status := knows.status.imp id fun usable => ?_ }
    have elsewhere := usable.kept.scope_ne_nextScope follows.settled
    exact ⟨usable.notGone, usable.present, usable.kept.openScope,
      .cons ⟨by simp [elsewhere], fun made => (elsewhere made).elim⟩ usable.logged⟩
  apart different first second := follows.apart different first second

/-- A named image after the innermost scope has closed. -/
def afterScope (state : State) (held : Held) : Held :=
  { held with
    gone := held.gone || (held.released && decide (held.scope = state.heap.innermost?)) }

theorem lookup_closeScope (state : State) (name : String) :
    state.closeScope.2.slots.lookup name = (state.slots.lookup name).map (afterScope state) :=
  lookup_map_snd state.slots (afterScope state) name

/-- What a closing scope made and had back is gone, and other images can be used as before. -/
theorem Knows.closeScope {state : State} {book : Book} {held : Held} {tree : Made}
    {scope : Scope} {outer : List Scope} {log : List Event} {logs : List (List Event)}
    (knows : Knows state.heap book held tree) (opened : state.heap.scopes = scope :: outer)
    (shown : book.logs = log :: logs) :
    Knows state.heap.closeScope.2 { book with gone := givenIn log ++ book.gone, logs }
      (afterScope state held) tree where
  numbered := knows.numbered
  bound := Heap.closeScope_size opened ▸ knows.bound
  room := knows.room
  status := by
    rcases knows.status with ⟨gone, nothing⟩ | usable
    · left
      refine ⟨List.mem_append_right _ gone, ?_⟩
      have block : state.heap.block? held.root = none := Option.map_eq_none_iff.mp nothing
      show Heap.cell? _ held.root = none
      rw [Heap.cell?, Heap.closeScope_block? opened, block]
      rfl
    · have logged := usable.logged
      rw [opened, shown, List.forall₂_cons] at logged
      by_cases given : tree ∈ givenIn log
      · left
        obtain ⟨made, released⟩ := mem_givenIn.mp given
        have here := logged.1.1.mpr made
        exact ⟨List.mem_append_left _ given,
          usable.kept.closeScope_gone opened here ((logged.1.2 here).mpr released)⟩
      · right
        have stays : ¬(held.scope = some scope.number ∧ held.released = true) := fun own =>
          given (mem_givenIn.mpr ⟨logged.1.1.mp own.1, (logged.1.2 own.1).mp own.2⟩)
        refine ⟨fun member => (List.mem_append.mp member).elim given usable.notGone, ?_,
          usable.kept.closeScope opened stays, ?_⟩
        · have foreign : (held.released && decide (held.scope = some scope.number)) = false := by
            simpa [Decidable.imp_iff_not_or, or_comm] using stays
          rw [afterScope, usable.present, Heap.innermost?_of_scopes opened, foreign, Bool.or_false]
        · rw [Heap.closeScope_scopes opened]
          exact logged.2

/-- Closing a scope keeps memory and book together, and the scope reports its account. -/
theorem Follows.closeScope {state : State} {book : Book} (follows : Follows state book)
    (some : 0 < book.logs.length) :
    state.closeScope.1 = book.closeScope.1 ∧ Follows state.closeScope.2 book.closeScope.2 := by
  have counted := follows.counted
  obtain ⟨log, logs, shown⟩ := List.exists_cons_of_length_pos some
  rw [shown] at counted
  obtain ⟨scope, outer, top, below, opened⟩ := List.forall₂_cons_right_iff.mp counted
  have entered : book.closeScope =
      (account log, { book with gone := givenIn log ++ book.gone, logs }) := by
    simp only [Book.closeScope, shown]
  have before : ∀ {name held tree}, Named state.closeScope.2 book.closeScope.2 name held tree →
      ∃ old, afterScope state old = held ∧ Named state book name old tree := by
    rintro name held tree ⟨heldFound, treeFound⟩
    rw [lookup_closeScope] at heldFound
    rw [entered] at treeFound
    obtain ⟨old, oldFound, same⟩ := Option.map_eq_some_iff.mp heldFound
    exact ⟨old, same, oldFound, treeFound⟩
  constructor
  · show state.heap.closeScope.1 = _
    rw [Heap.closeScope_report follows.settled opened, entered, account, top.allocations,
      top.releases, top.invalidReleases]
  constructor
  case settled => exact follows.settled.closeScope opened
  case counted =>
    show List.Forall₂ _ state.heap.closeScope.2.scopes _
    rw [Heap.closeScope_scopes opened, entered]
    exact below
  case gone =>
    rw [entered]
    intro tree member
    rcases List.mem_append.mp member with given | gone
    · exact top.numbered _ (mem_givenIn.mp given).1
    · exact follows.gone tree gone
  case named =>
    intro name
    rw [lookup_closeScope, entered, Option.isSome_map]
    exact follows.named name
  case knows =>
    intro name held tree named
    obtain ⟨old, rfl, oldNamed⟩ := before named
    rw [entered]
    exact (follows.knows oldNamed).closeScope opened shown
  case apart =>
    intro name other first second firstTree secondTree different firstNamed secondNamed
    obtain ⟨firstOld, rfl, firstBefore⟩ := before firstNamed
    obtain ⟨secondOld, rfl, secondBefore⟩ := before secondNamed
    have apart := follows.apart different firstBefore secondBefore
    exact apart

end SqlImage.Session
