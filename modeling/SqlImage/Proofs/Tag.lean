/-
This file says that the lists of tags are complete: every tag stands in its list, and
only once, so the number that a tag is kept as gives back the tag, and no other number
does. For the kind of a statement this means that whoever finds the number takes the
statement for what it was laid out as.
-/

import SqlImage.Image.Content
import Mathlib.Data.List.Basic

namespace SqlImage.Tree.Tag

/-- A list of tags that holds every tag once and whose places are numbers of 32 bits. -/
class Complete (α : Type) [Tag α] : Prop where
  mem_all : ∀ tag : α, tag ∈ all α
  nodup_all : (all α).Nodup
  length_all : (all α).length ≤ UInt32.size

section Complete

variable {α : Type} [Tag α] [DecidableEq α] [Complete α]

theorem ofOrdinal?_ordinal (tag : α) : ofOrdinal? (ordinal tag) = some tag :=
  List.getElem?_idxOf (Complete.mem_all tag)

theorem toNat_ofNat_ordinal (tag : α) : (UInt32.ofNat (ordinal tag)).toNat = ordinal tag :=
  UInt32.toNat_ofNat_of_lt
    (Nat.lt_of_lt_of_le (List.idxOf_lt_length_of_mem (Complete.mem_all tag)) Complete.length_all)

/-- The number that a tag is kept as stands for the tag. -/
theorem ofOrdinal?_toNat_ofNat (tag : α) :
    ofOrdinal? (UInt32.ofNat (ordinal tag)).toNat = some tag := by
  rw [toNat_ofNat_ordinal, ofOrdinal?_ordinal]

/-- A tag is kept as the only number that stands for it. -/
theorem ofNat_ordinal_of_ofOrdinal? {ordinal : UInt32} {tag : α}
    (found : ofOrdinal? ordinal.toNat = some tag) : UInt32.ofNat (Tag.ordinal tag) = ordinal := by
  obtain ⟨inside, rfl⟩ := List.getElem?_eq_some_iff.mp found
  rw [Tag.ordinal, Complete.nodup_all.idxOf_getElem ordinal.toNat inside, UInt32.ofNat_toNat]

end Complete

instance : Complete ExprKind where
  mem_all tag := by cases tag <;> decide
  nodup_all := by decide
  length_all := by decide

instance : Complete DatetimeField where
  mem_all tag := by cases tag <;> decide
  nodup_all := by decide
  length_all := by decide

instance : Complete Operator where
  mem_all tag := by cases tag <;> decide
  nodup_all := by decide
  length_all := by decide

instance : Complete StatementKind where
  mem_all tag := by cases tag <;> decide
  nodup_all := by decide
  length_all := by decide

instance : Complete JoinKind where
  mem_all tag := by cases tag <;> decide
  nodup_all := by decide
  length_all := by decide

instance : Complete TableKind where
  mem_all tag := by cases tag <;> decide
  nodup_all := by decide
  length_all := by decide

instance : Complete SortOrder where
  mem_all tag := by cases tag <;> decide
  nodup_all := by decide
  length_all := by decide

instance : Complete SetKind where
  mem_all tag := by cases tag <;> decide
  nodup_all := by decide
  length_all := by decide

end SqlImage.Tree.Tag

namespace SqlImage.Image

open SqlImage.Tree

/-! ### The routine of a statement -/

/-- A statement is laid out by its kind, and by the number that its kind is kept as. -/
theorem Routine.ofOrdinal_ordinal (kind : StatementKind) :
    Routine.ofOrdinal (UInt32.ofNat (Tag.ordinal kind)) = Routine.ofKind kind := by
  rw [Routine.ofOrdinal, Tag.ofOrdinal?_toNat_ofNat]

theorem Routine.ofKind_of_ne_select {kind : StatementKind} (untagged : kind ≠ .select) :
    Routine.ofKind kind = .baseOnly := by
  cases kind <;> first | rfl | exact (untagged rfl).elim

/-- The kind of the record of a statement. -/
def Routine.kind : Routine → Kind
  | .select => .select
  | .baseOnly => .statement

/-- A record is a select exactly for the number of that tag. -/
theorem Routine.kind_ofKind_eq_select_iff (kind : StatementKind) :
    (Routine.ofKind kind).kind = .select ↔
      UInt32.ofNat (Tag.ordinal kind) = UInt32.ofNat (Tag.ordinal StatementKind.select) := by
  cases kind <;> decide

end SqlImage.Image

namespace SqlImage.Tree

open SqlImage.Image

/-- The select that a statement is laid out as if its kind is select. -/
def Statement.inFull : Statement → Select
  | .select body => body
  | bare => .ofBase bare.base

theorem Statement.base_inFull (statement : Statement) :
    statement.inFull.base = statement.base := by
  cases statement <;> rfl

theorem Statement.content_of_select {statement : Statement}
    (tagged : statement.base.kind = .select) : statement.content = statement.inFull.content := by
  unfold Statement.content
  rw [tagged]
  cases statement <;> rfl

theorem Statement.content_of_ne_select {statement : Statement}
    (untagged : statement.base.kind ≠ .select) :
    statement.content = .record .statement statement.base.contents := by
  unfold Statement.content
  rw [Routine.ofKind_of_ne_select untagged]

end SqlImage.Tree
