/-
This file says where the clauses of a query go. A tree has set operations just if
the body of its query is one, whatever parentheses stand around it: the first
select of a tree has none, every operation adds one, and the clauses of a query add
and remove none. So the order and the limit of a query always find the slots of the
operation that was written last if there is one, and those of the select only if
there is none. All else in the tree of the body stays as it is, and a slot that
holds a clause keeps it.
-/

import SqlImage.Proofs.Combination

namespace SqlImage

namespace Lowering

open SqlImage.Tree

/-! ### Clauses in their slots -/

/-- A select with the clauses of a query put into it. The order and the limit go to the last set
operation if the body of the query is one, and to the select otherwise. -/
inductive Encloses (tables : Option (List With)) (order : Option (List Order))
    (limit : Option Limit) (inner : Select) : (compound : Bool) → Select → Prop where
  | select {withDescriptions : Option (List With)} {ownOrder : Option (List Order)}
      {ownLimit : Option Limit} (isAlone : inner.setOperations = none)
      (tablesIn : Receives inner.withDescriptions tables withDescriptions)
      (orderIn : Receives inner.order order ownOrder)
      (limitIn : Receives inner.limit limit ownLimit) :
      Encloses tables order limit inner false
        { inner with withDescriptions, order := ownOrder, limit := ownLimit }
  | operation {withDescriptions : Option (List With)} {earlier : List SetOperation}
      {last : SetOperation} {resultOrder : Option (List Order)} {resultLimit : Option Limit}
      (parts : inner.setOperations = some (earlier ++ [last]))
      (tablesIn : Receives inner.withDescriptions tables withDescriptions)
      (orderIn : Receives last.resultOrder order resultOrder)
      (limitIn : Receives last.resultLimit limit resultLimit) :
      Encloses tables order limit inner true
        { inner with
          withDescriptions
          setOperations := some (earlier ++ [{ last with resultOrder, resultLimit }]) }

/-- Whether set operations are there: absent for a body that is none, and with a last one
otherwise. -/
def HasOperations (compound : Bool) (operations : Option (List SetOperation)) : Prop :=
  if compound = true then ∃ earlier last, operations = some (earlier ++ [last])
  else operations = none

/-- The named queries, the order and the limit of a query find their slots. -/
theorem encloses_fill {compound : Bool} {tables : Option (List With)}
    {order : Option (List Order)} {limit : Option Limit} {inner middle filled : Select}
    (shown : HasOperations compound inner.setOperations)
    (tablesDone : fillTables tables inner = .ok middle)
    (rowsDone : fillRows compound order limit middle = .ok filled) :
    Encloses tables order limit inner compound filled := by
  obtain ⟨withDescriptions, tablesIn, rfl⟩ := fillTables_eq_ok.mp tablesDone
  cases fillRows_eq_ok.mp rowsDone with
  | ofSelect isAlone orderIn limitIn =>
    cases compound with
    | false => exact .select shown tablesIn orderIn limitIn
    | true =>
      obtain ⟨earlier, last, parts⟩ := shown
      have none : inner.setOperations.getD [] = [] := isAlone rfl
      rw [parts] at none
      exact (List.append_ne_nil_of_right_ne_nil _ (List.cons_ne_nil _ _) none).elim
  | ofLast isCompound parts orderIn limitIn =>
    cases isCompound
    exact .operation parts tablesIn orderIn limitIn

/-- The clauses of a query leave it as it is whether there are set operations. -/
theorem Encloses.hasOperations {tables : Option (List With)} {order : Option (List Order)}
    {limit : Option Limit} {inner filled : Select} {compound : Bool}
    (encloses : Encloses tables order limit inner compound filled) :
    HasOperations compound filled.setOperations := by
  cases encloses with
  | select isAlone => exact isAlone
  | operation => exact ⟨_, _, rfl⟩

theorem HasOperations.isCompound_iff {compound : Bool} {operations : Option (List SetOperation)}
    (shown : HasOperations compound operations) :
    compound = true ↔ ∃ first rest, operations = some (first :: rest) := by
  cases compound with
  | false =>
    obtain rfl : operations = none := shown
    exact ⟨nofun, nofun⟩
  | true =>
    obtain ⟨earlier, last, rfl⟩ := shown
    obtain ⟨first, rest, listed⟩ := exists_cons_of_concat earlier last
    exact ⟨fun _ => ⟨first, rest, congrArg some listed⟩, fun _ => rfl⟩

end Lowering

/-! ### The visit -/

namespace Sql

open Lowering

mutual

theorem Query.makes_hasOperations : (query : Query) →
    Makes query.lower fun tree => HasOperations query.isCompound tree.setOperations
  | ⟨withClause, body, order, limit, _, offset, _, fetch, _⟩ => by
    rw [Query.lower, Query.isCompound]
    refine makes_of_check ?_
    refine (makes_any _).bind fun tables _ => ?_
    refine body.makes_hasOperations.bind fun inner shown => ?_
    refine (makes_lift fun _ => id).bind fun middle tablesDone => ?_
    refine (makes_any _).bind fun keys _ => ?_
    refine (makes_any _).bind fun limit _ => (makes_any _).bind fun offset _ => ?_
    exact makes_lift fun filled rowsDone => (encloses_fill shown tablesDone rowsDone).hasOperations

theorem Body.makes_hasOperations : (body : Body) →
    Makes body.lower fun tree => HasOperations body.isCompound tree.setOperations
  | .select select => by
    simp only [Body.lower, Body.isCompound]
    exact select.makes_core.mono fun tree alone => alone.2
  | .query query => by
    rw [Body.lower, Body.isCompound]
    exact query.makes_hasOperations
  | .operation kind quantifier left right => by
    rw [Body.lower, Body.isCompound]
    refine (makes_any _).bind fun isAll _ => ?_
    refine (makes_any _).bind fun select _ => (makes_any _).bind fun nestedSelect _ => ?_
    exact makes_pure ⟨_, _, rfl⟩
  | .values _ => by
    rw [Body.lower]
    exact makes_refuse _
  | .phrase _ => by
    rw [Body.lower]
    exact makes_refuse _

end

theorem lowerWith_eq_none {withClause : Option With} {before after : Nat}
    {tables : Option (List Tree.With)} (made : lowerWith withClause before = .ok (tables, after)) :
    tables = none ↔ withClause = none := by
  cases withClause with
  | none =>
    rw [lowerWith] at made
    cases made
    exact iff_of_true rfl rfl
  | some withClause =>
    rw [lowerWith] at made
    obtain ⟨list, _, -, same⟩ := run_bind_eq_ok.mp made
    cases same
    exact iff_of_false (Option.some_ne_none _) (Option.some_ne_none _)

theorem lowerOrder_eq_nil {order : List OrderItem} {before after : Nat} {keys : List Tree.Order}
    (made : lowerOrder order before = .ok (keys, after)) : keys = [] ↔ order = [] := by
  cases order with
  | nil =>
    rw [lowerOrder] at made
    cases made
    exact iff_of_true rfl rfl
  | cons item rest =>
    obtain ⟨expr, ascending, nullsFirst⟩ := item
    rw [lowerOrder] at made
    split at made
    · cases made
    · obtain ⟨_, _, -, restNext⟩ := run_bind_eq_ok.mp made
      obtain ⟨_, _, -, same⟩ := run_bind_eq_ok.mp restNext
      cases same
      exact iff_of_false (List.cons_ne_nil _ _) (List.cons_ne_nil _ _)

theorem lowerOption_eq_none {expr : Option Expr} {before after : Nat} {made : Option Tree.Expr}
    (lowered : lowerOption expr before = .ok (made, after)) : made = none ↔ expr = none := by
  cases expr with
  | none =>
    rw [lowerOption] at lowered
    cases lowered
    exact iff_of_true rfl rfl
  | some expr =>
    rw [lowerOption] at lowered
    obtain ⟨_, _, -, same⟩ := run_bind_eq_ok.mp lowered
    cases same
    exact iff_of_false (Option.some_ne_none _) (Option.some_ne_none _)

/-- The clause that keys of a sort are: absent where no sort is written, and the keys themselves
otherwise. -/
structure IsOrder (written : List OrderItem) (keys : List Tree.Order)
    (order : Option (List Tree.Order)) : Prop where
  absent : order = none ↔ written = []
  present : ∀ list, order = some list → list = keys

/-- The clause that a limit and an offset are: absent where neither is written, and otherwise the
two side by side, each of them absent where it is not written. -/
structure IsLimit (limitWritten offsetWritten : Option Expr) (limit offset : Option Tree.Expr)
    (bounds : Option Tree.Limit) : Prop where
  absent : bounds = none ↔ limitWritten = none ∧ offsetWritten = none
  present : ∀ both, bounds = some both → both.limit = limit ∧ both.offset = offset
  noLimit : limit = none ↔ limitWritten = none
  noOffset : offset = none ↔ offsetWritten = none

theorem isOrder_sort {order : List OrderItem} {before after : Nat} {keys : List Tree.Order}
    (made : lowerOrder order before = .ok (keys, after)) : IsOrder order keys (sort keys) := by
  have empty := lowerOrder_eq_nil made
  cases keys with
  | nil => exact ⟨iff_of_true rfl (empty.mp rfl), nofun⟩
  | cons first rest =>
    have written : order ≠ [] := fun none => List.cons_ne_nil _ _ (empty.mpr none)
    refine ⟨iff_of_false (Option.some_ne_none _) written, ?_⟩
    rintro _ ⟨⟩
    rfl

theorem isLimit_rows {limit offset : Option Expr} {before between after : Nat}
    {limitMade offsetMade : Option Tree.Expr}
    (limitLowered : lowerOption limit before = .ok (limitMade, between))
    (offsetLowered : lowerOption offset between = .ok (offsetMade, after)) :
    IsLimit limit offset limitMade offsetMade (Sql.rows limitMade offsetMade) := by
  have noLimit := lowerOption_eq_none limitLowered
  have noOffset := lowerOption_eq_none offsetLowered
  refine ⟨?_, ?_, noLimit, noOffset⟩
  · rw [← noLimit, ← noOffset]
    cases limitMade <;> cases offsetMade <;> simp [Sql.rows]
  · intro both present
    cases limitMade <;> cases offsetMade <;> cases present <;> exact ⟨rfl, rfl⟩

/-- A query is a set operation just if its tree has set operations. The tree is that of the body,
made between the named queries and the keys of the sort, with nothing changed but the slots of the
clauses: the order and the limit stand with the last set operation if there is one, and no clause
takes the place of another. -/
theorem Query.encloses_lower {query : Query} {before after : Nat} {tree : Tree.Select}
    (lowered : query.lower before = .ok (tree, after)) :
    (query.body.isCompound = true ↔ ∃ first rest, tree.setOperations = some (first :: rest)) ∧
      ∃ tables inner keys order limit offset bounds bodyBefore keysBefore limitBefore offsetBefore,
        lowerWith query.withClause before = .ok (tables, bodyBefore) ∧
        (tables = none ↔ query.withClause = none) ∧
        query.body.lower bodyBefore = .ok (inner, keysBefore) ∧
        (query.body.isCompound = true ↔
          ∃ first rest, inner.setOperations = some (first :: rest)) ∧
        lowerOrder query.order keysBefore = .ok (keys, limitBefore) ∧
        IsOrder query.order keys order ∧
        lowerOption query.limit limitBefore = .ok (limit, offsetBefore) ∧
        lowerOption query.offset offsetBefore = .ok (offset, after) ∧
        IsLimit query.limit query.offset limit offset bounds ∧
        Encloses tables order bounds inner query.body.isCompound tree := by
  obtain ⟨tables, inner, middle, keys, limit, offset, bodyBefore, keysBefore, limitBefore,
    offsetBefore, tablesMade, innerMade, tablesDone, keysMade, limitMade, offsetMade, rowsDone⟩ :=
    lower_eq_ok lowered
  have shown := query.body.makes_hasOperations bodyBefore inner keysBefore innerMade
  have encloses := encloses_fill shown tablesDone rowsDone
  exact ⟨encloses.hasOperations.isCompound_iff, tables, inner, keys, sort keys, limit, offset,
    Sql.rows limit offset, bodyBefore, keysBefore, limitBefore, offsetBefore, tablesMade,
    lowerWith_eq_none tablesMade, innerMade, shown.isCompound_iff, keysMade, isOrder_sort keysMade,
    limitMade, offsetMade, isLimit_rows limitMade offsetMade, encloses⟩

/-- Set operations in parentheses, with a limit inside them and a sort outside. -/
def Query.sortedOutside : Query :=
  { ofBody (.query someOperations) with order := [⟨.literal (.number "1" false), none, none⟩] }

/-- The sort is put beside the limit of the last operation, and nothing else is changed. -/
theorem Query.encloses_lower_sortedOutside :
    ∃ tree inner, sortedOutside.lower 0 = .ok (tree, 1) ∧ someOperations.lower 0 = .ok (inner, 1) ∧
      (∃ first rest, tree.setOperations = some (first :: rest)) ∧
      Encloses none (some [⟨.ascending, .literalInt 1⟩]) none inner true tree := by
  have numbered : (sortedOutside.lower 0).map Prod.snd = .ok 1 := by rfl
  have innerNumbered : (someOperations.lower 0).map Prod.snd = .ok 1 := by rfl
  have noTables : lowerWith none 0 = .ok (none, 0) := by rfl
  have oneKey : lowerOrder sortedOutside.order 1 = .ok ([⟨.ascending, .literalInt 1⟩], 1) := by rfl
  have noRows : lowerOption none 1 = .ok (none, 1) := by rfl
  obtain ⟨⟨tree, after⟩, lowered, same⟩ := map_eq_ok.mp numbered
  cases same
  obtain ⟨compound, tables, inner, keys, order, limit, offset, bounds, bodyBefore, keysBefore,
    limitBefore, offsetBefore, tablesMade, -, innerMade, -, keysMade, isOrder, limitMade,
    offsetMade, isLimit, encloses⟩ := encloses_lower lowered
  cases noTables.symm.trans tablesMade
  have inside : sortedOutside.body.lower = someOperations.lower := by
    rw [show sortedOutside.body = .query someOperations from rfl, Body.lower]
  rw [inside] at innerMade
  rw [innerMade] at innerNumbered
  cases innerNumbered
  cases oneKey.symm.trans keysMade
  cases noRows.symm.trans limitMade
  cases noRows.symm.trans offsetMade
  obtain rfl : bounds = none := isLimit.absent.mpr ⟨rfl, rfl⟩
  cases order with
  | none => exact (List.cons_ne_nil _ _ (isOrder.absent.mp rfl)).elim
  | some list =>
    cases isOrder.present list rfl
    exact ⟨tree, inner, lowered, innerMade, compound.mp (by rfl), encloses⟩

end Sql

end SqlImage
