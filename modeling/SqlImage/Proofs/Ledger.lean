/-
This file says that the counts of every open scope add up at all times: what a scope
has made is what it had back and what it still has outstanding. A cell counts for
the scope that was innermost when it was made, and only that scope can have it back,
so an operation changes the counts of the innermost scope alone. Scopes keep their
cells apart since each has a number of its own.
-/

import SqlImage.Proofs.Heap

namespace SqlImage.Image

namespace Heap

/-- The number of cells that a scope made and has not had back. -/
def outstanding (heap : Heap) (number : Nat) : Nat := heap.blocks.countP (isOutstanding number)

/-- The counts of the open scopes add up. -/
structure Settled (heap : Heap) : Prop where
  distinct : (heap.scopes.map (·.number)).Nodup
  opened : ∀ scope ∈ heap.scopes, scope.number < heap.nextScope
  /-- The next scope has made no cell yet. -/
  known : ∀ block, some block ∈ heap.blocks → ∀ number, block.scope = some number →
    number < heap.nextScope
  balance : ∀ scope ∈ heap.scopes,
    scope.allocations = scope.releases + heap.outstanding scope.number

theorem settled_empty : empty.Settled where
  distinct := .nil
  opened := by simp [empty]
  known := by simp [empty]
  balance := by simp [empty]

/-- The scopes around the innermost one have other numbers. -/
theorem Settled.number_ne {heap : Heap} {scope : Scope} {outer : List Scope}
    (settled : heap.Settled) (opened : heap.scopes = scope :: outer) :
    ∀ other ∈ outer, scope.number ≠ other.number := by
  have distinct := settled.distinct
  rw [opened, List.map_cons, List.nodup_cons] at distinct
  intro other member same
  exact distinct.1 (same ▸ List.mem_map_of_mem member)

/-! ### Opening and closing scopes -/

theorem outstanding_nextScope {heap : Heap} (settled : heap.Settled) :
    heap.outstanding heap.nextScope = 0 := by
  refine Array.countP_eq_zero.mpr fun block member outstanding => ?_
  cases block with
  | none => cases outstanding
  | some block =>
    simp only [isOutstanding, Option.any_some, Bool.and_eq_true, decide_eq_true_eq] at outstanding
    exact Nat.lt_irrefl _ (settled.known block member _ outstanding.1)

theorem Settled.openScope {heap : Heap} (settled : heap.Settled) : heap.openScope.Settled where
  distinct := by
    refine List.nodup_cons.mpr ⟨fun member => ?_, settled.distinct⟩
    obtain ⟨scope, opened, number⟩ := List.mem_map.mp member
    exact Nat.lt_irrefl _ (number ▸ settled.opened scope opened)
  opened scope member := by
    rcases List.mem_cons.mp member with rfl | outer
    · exact Nat.lt_succ_self _
    · exact Nat.lt_succ_of_lt (settled.opened scope outer)
  known block member number made := Nat.lt_succ_of_lt (settled.known block member number made)
  balance scope member := by
    rcases List.mem_cons.mp member with rfl | outer
    · show 0 = 0 + heap.outstanding heap.nextScope
      rw [outstanding_nextScope settled]
    · exact settled.balance scope outer

/-- What a closing scope takes away was outstanding in no other scope. -/
theorem isOutstanding_afterScope {number closing : Nat} (other : number ≠ closing) :
    isOutstanding number ∘ afterScope closing = isOutstanding number := by
  funext block
  cases block with
  | none => rfl
  | some block =>
    simp only [Function.comp_apply, afterScope, Option.filter_some]
    split
    · rfl
    · rename_i away
      simp only [Bool.not_eq_true', Bool.not_eq_false, Bool.and_eq_true,
        decide_eq_true_eq] at away
      simp [isOutstanding, away.1, Ne.symm other]

theorem Settled.closeScope {heap : Heap} {scope : Scope} {outer : List Scope}
    (settled : heap.Settled) (opened : heap.scopes = scope :: outer) :
    heap.closeScope.2.Settled := by
  have closed : heap.closeScope.2 =
      { heap with blocks := heap.blocks.map (afterScope scope.number), scopes := outer } := by
    rw [Heap.closeScope, opened]
  have distinct := settled.distinct
  rw [opened, List.map_cons, List.nodup_cons] at distinct
  have outside : ∀ other ∈ outer, other ∈ heap.scopes := fun other member =>
    opened ▸ List.mem_cons_of_mem _ member
  rw [closed]
  constructor
  case distinct => exact distinct.2
  case opened => exact fun other member => settled.opened other (outside other member)
  case known =>
    intro block member
    obtain ⟨old, oldMember, kept⟩ := Array.mem_map.mp member
    obtain ⟨rfl, -⟩ := Option.filter_eq_some_iff.mp kept
    exact settled.known block oldMember
  case balance =>
    intro other member
    have different := (settled.number_ne opened other member).symm
    rw [settled.balance other (outside other member), outstanding, outstanding, Array.countP_map,
      isOutstanding_afterScope different]

/-- The report of a closing scope. What it has outstanding is what it made and did not have
back. -/
theorem closeScope_report {heap : Heap} {scope : Scope} {outer : List Scope}
    (settled : heap.Settled) (opened : heap.scopes = scope :: outer) :
    heap.closeScope.1 = ⟨scope.allocations, scope.releases, scope.allocations - scope.releases,
      scope.invalidReleases⟩ := by
  have balance := settled.balance scope (opened ▸ List.mem_cons_self)
  have report : heap.closeScope.1 = ⟨scope.allocations, scope.releases,
      heap.outstanding scope.number, scope.invalidReleases⟩ := by
    rw [Heap.closeScope, opened]
    rfl
  rw [report, balance, Nat.add_sub_cancel_left]

/-! ### Keeping and giving back cells -/

theorem Settled.allocate {heap : Heap} (settled : heap.Settled) (cell : Cell) :
    (heap.allocate cell).2.Settled := by
  have scopes := heap.allocate_scopes cell
  constructor
  case distinct =>
    rw [scopes]
    have distinct := settled.distinct
    cases opened : heap.scopes with
    | nil => exact .nil
    | cons scope outer =>
      rw [opened] at distinct
      exact distinct
  case opened =>
    rw [scopes, allocate_nextScope]
    cases opened : heap.scopes with
    | nil => simp
    | cons scope outer =>
      have before := settled.opened
      rw [opened, List.forall_mem_cons] at before
      exact List.forall_mem_cons.mpr before
  case known =>
    rw [allocate_blocks, allocate_nextScope]
    intro block member number made
    rcases Array.mem_push.mp member with old | new
    · exact settled.known block old number made
    · cases new
      obtain ⟨scope, head, rfl⟩ := Option.map_eq_some_iff.mp made
      exact settled.opened scope (List.mem_of_head? head)
  case balance =>
    rw [scopes]
    have balance := settled.balance
    cases opened : heap.scopes with
    | nil => simp
    | cons scope outer =>
      rw [opened, List.forall_mem_cons] at balance
      have fresh := innermost?_of_scopes opened
      refine List.forall_mem_cons.mpr ⟨?_, fun other member => ?_⟩
      · have own : isOutstanding scope.number (some (heap.freshBlock cell)) = true := by
          simp [isOutstanding, freshBlock, fresh]
        rw [outstanding, allocate_blocks, Array.countP_push, own, if_pos rfl]
        show scope.allocations + 1 = scope.releases + (heap.outstanding scope.number + 1)
        rw [balance.1, Nat.add_assoc]
      · have different := settled.number_ne opened other member
        have foreign : isOutstanding other.number (some (heap.freshBlock cell)) = false := by
          simp [isOutstanding, freshBlock, fresh, different]
        rw [outstanding, allocate_blocks, Array.countP_push, foreign, if_neg Bool.false_ne_true]
        exact balance.2 other member

theorem Settled.allocateAll {heap : Heap} (settled : heap.Settled) (cells : List Cell) :
    (heap.allocateAll cells).Settled := by
  induction cells generalizing heap with
  | nil => exact settled
  | cons cell rest inductionHypothesis => exact inductionHypothesis (settled.allocate cell)

/-- The cells of a scope after one of them was given back there. -/
theorem outstanding_markReleased {heap : Heap} {address : Address} {block : Block}
    (found : heap.block? address = some block) (unreleased : block.released = false)
    (number : Nat) :
    (heap.blocks.setIfInBounds address (some (markReleased block))).countP
        (isOutstanding number) + (if block.scope = some number then 1 else 0) =
      heap.outstanding number := by
  have inside := lt_size_of_block? found
  have there : heap.blocks[address] = some block := by
    rwa [block?, Array.getElem?_eq_getElem inside, Option.join_some] at found
  have old : isOutstanding number (some block) = decide (block.scope = some number) := by
    simp [isOutstanding, unreleased]
  have new : isOutstanding number (some (markReleased block)) = false := by
    simp [isOutstanding, markReleased]
  have counted := Array.boole_getElem_le_countP (p := isOutstanding number) inside
  rw [Array.setIfInBounds, dif_pos inside, Array.countP_set inside, there, old, new]
  rw [there, old] at counted
  simp only [decide_eq_true_eq, Bool.false_eq_true, if_false] at counted ⊢
  exact Nat.sub_add_cancel counted

/-- Another block of the same scope makes no unknown scope known. -/
theorem Settled.known_setIfInBounds {heap : Heap} (settled : heap.Settled) {address : Address}
    {block : Block} (found : heap.block? address = some block) {replaced : Option Block}
    (same : ∀ other, replaced = some other → other.scope = block.scope) :
    ∀ other, some other ∈ heap.blocks.setIfInBounds address replaced →
      ∀ number, other.scope = some number → number < heap.nextScope := by
  intro other member number made
  rcases Array.mem_or_eq_of_mem_setIfInBounds member with old | new
  · exact settled.known other old number made
  · exact settled.known block (mem_blocks_of_block? found) number (same other new.symm ▸ made)

theorem Settled.giveBack {heap later : Heap} {address : Address} {layout : Layout}
    (settled : heap.Settled) (given : heap.giveBack address layout = .ok later) :
    later.Settled := by
  unfold Heap.giveBack at given
  split at given
  · cases given
  · rename_i block found
    split at given
    · rename_i unscoped
      split at given <;> cases given
      exact ⟨settled.distinct, settled.opened, settled.known_setIfInBounds found nofun,
        by simp [unscoped]⟩
    · rename_i scope outer opened
      have distinct := settled.distinct
      have before := settled.opened
      have balance := settled.balance
      rw [opened, List.map_cons, List.nodup_cons] at distinct
      rw [opened, List.forall_mem_cons] at before balance
      split at given <;> cases given
      · rename_i own
        refine ⟨List.nodup_cons.mpr distinct, List.forall_mem_cons.mpr before,
          settled.known_setIfInBounds found fun other same => ?_,
          List.forall_mem_cons.mpr ⟨?_, fun other otherMember => ?_⟩⟩
        · cases same
          rfl
        · have less := outstanding_markReleased found own.2 scope.number
          rw [if_pos own.1] at less
          rw [balance.1, ← less, Nat.add_comm _ 1, ← Nat.add_assoc]
          rfl
        · have different := settled.number_ne opened other otherMember
          have same := outstanding_markReleased found own.2 other.number
          rw [if_neg fun made => different (Option.some.inj (own.1.symm.trans made)),
            Nat.add_zero] at same
          rw [balance.2 other otherMember, ← same]
          rfl
      · exact ⟨List.nodup_cons.mpr distinct, List.forall_mem_cons.mpr before, settled.known,
          List.forall_mem_cons.mpr balance⟩

theorem Settled.giveBackAll {heap later : Heap} {given : List (Address × Layout)}
    (settled : heap.Settled) (done : Heap.giveBackAll given heap = .ok later) :
    later.Settled := by
  induction given generalizing heap with
  | nil =>
    cases done
    exact settled
  | cons entry rest inductionHypothesis =>
    obtain ⟨address, layout⟩ := entry
    simp only [Heap.giveBackAll] at done
    split at done
    · rename_i next step
      exact inductionHypothesis (settled.giveBack step) done
    · cases done

end Heap

end SqlImage.Image
