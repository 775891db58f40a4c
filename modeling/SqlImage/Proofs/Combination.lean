/-
This file says that a query and its tree combine the same selects by the same set
operations. A query nests its operations on both sides, while a tree puts those of
the left side into one list and nests the right sides only. Read from the left, the
list gives back what the query nests: one more operation at its end combines all
that came before, and no other clause of a query touches it.
-/

import SqlImage.Lowering.Query
import SqlImage.Proofs.Filled

namespace SqlImage

/-! ### Combinations -/

/-- What set operations make of leaves, and whether each of them keeps repeated rows. -/
inductive Combination (α : Type) where
  | leaf (value : α)
  | operation (kind : Tree.SetKind) (isAll : Bool) (left right : Combination α)

/-- Two combinations by the same operations, of leaves that are related one by one. -/
inductive Combination.Related {α β : Type} (related : α → β → Prop) :
    Combination α → Combination β → Prop where
  | leaf {value : α} {other : β} (leaves : related value other) :
    Related related (.leaf value) (.leaf other)
  | operation (kind : Tree.SetKind) (isAll : Bool) {left right : Combination α}
    {otherLeft otherRight : Combination β} (lefts : Related related left otherLeft)
    (rights : Related related right otherRight) :
    Related related (.operation kind isAll left right)
      (.operation kind isAll otherLeft otherRight)

namespace Sql

mutual

/-- What a query combines. Its other clauses do not matter. -/
def Query.combination : Query → Combination Body
  | ⟨_, body, _, _, _, _, _, _, _⟩ => body.combination

/-- What the body of a query combines. Parentheses only say where an operation belongs. -/
def Body.combination : Body → Combination Body
  | .query query => query.combination
  | .operation kind quantifier left right =>
    .operation kind (quantifier = .all) left.combination right.combination
  | body => .leaf body

end

end Sql

namespace Tree

/-- A select by itself: without set operations, and without the clauses that may belong to what it
is combined with. -/
def Select.core (select : Select) : Select :=
  { select with setOperations := none, order := none, withDescriptions := none, limit := none }

mutual

/-- What a select combines: itself with what each of its set operations brings, in turn. -/
def Select.combination : Select → Combination Select
  | ⟨base, fromTable, selectDistinct, selectList, whereClause, groupBy, setOperations, order,
      withDescriptions, limit⟩ =>
    combineOption (.leaf (Select.core ⟨base, fromTable, selectDistinct, selectList, whereClause,
      groupBy, none, order, withDescriptions, limit⟩)) setOperations

/-- What operations that may be absent make of what was combined before. -/
def combineOption (left : Combination Select) : Option (List SetOperation) → Combination Select
  | none => left
  | some operations => combineList left operations

/-- What operations make, one after the other, of what was combined before. -/
def combineList (left : Combination Select) : List SetOperation → Combination Select
  | [] => left
  | operation :: rest => combineList (operation.combine left) rest

/-- What an operation makes of what was combined before. -/
def SetOperation.combine (left : Combination Select) : SetOperation → Combination Select
  | ⟨kind, isAll, nestedSelect, _, _⟩ => .operation kind isAll left nestedSelect.combination

end

theorem combineList_eq_foldl (left : Combination Select) (operations : List SetOperation) :
    combineList left operations =
      operations.foldl (fun left operation => operation.combine left) left := by
  induction operations generalizing left with
  | nil => rw [combineList, List.foldl_nil]
  | cons operation rest inductionHypothesis =>
    rw [combineList, List.foldl_cons, inductionHypothesis]

/-- The operations of a select are read from the left. -/
theorem Select.combination_eq_foldl (select : Select) :
    select.combination = (select.setOperations.getD []).foldl
      (fun left operation => operation.combine left) (.leaf select.core) := by
  cases select with
  | mk _ _ _ _ _ _ setOperations =>
    cases setOperations with
    | none => rw [combination, combineOption]; rfl
    | some operations => rw [combination, combineOption, combineList_eq_foldl]; rfl

end Tree

namespace Lowering

open SqlImage.Tree

/-! ### Clauses in their slots -/

theorem combination_addOperation (operation : SetOperation) (select : Select) :
    (addOperation operation select).combination = operation.combine select.combination := by
  rw [Select.combination_eq_foldl, Select.combination_eq_foldl select, addOperation]
  exact List.foldl_append.trans rfl

theorem combination_fillTables {tables : Option (List With)} {select filled : Select}
    (done : fillTables tables select = .ok filled) :
    filled.combination = select.combination := by
  obtain ⟨withDescriptions, -, rfl⟩ := fillTables_eq_ok.mp done
  rw [Select.combination_eq_foldl, Select.combination_eq_foldl select]
  rfl

/-- An order and a limit do not matter to how a set operation combines. -/
theorem combine_filledOperation (operation : SetOperation) (resultOrder : Option (List Order))
    (resultLimit : Option Limit) (left : Combination Select) :
    SetOperation.combine left { operation with resultOrder, resultLimit } =
      operation.combine left := by
  cases operation
  rw [SetOperation.combine, SetOperation.combine]

theorem combination_fillRows {compound : Bool} {order : Option (List Order)}
    {limit : Option Limit} {select filled : Select}
    (done : fillRows compound order limit select = .ok filled) :
    filled.combination = select.combination := by
  rw [Select.combination_eq_foldl, Select.combination_eq_foldl select]
  cases fillRows_eq_ok.mp done with
  | ofSelect isAlone orderIn limitIn => rfl
  | ofLast isCompound parts orderIn limitIn =>
    rw [parts, Option.getD_some, Option.getD_some, List.foldl_append, List.foldl_append,
      List.foldl_cons, List.foldl_cons, combine_filledOperation]
    rfl

/-- Repeated rows stay if this is written, and not if nothing is written. -/
theorem steady_keepsAll (quantifier : Sql.SetQuantifier) :
    Steady (keepsAll quantifier) (· = decide (quantifier = .all)) := by
  cases quantifier <;> first | exact steady_pure rfl | exact steady_refuse _

end Lowering

namespace Sql

open Lowering

/-! ### The visit -/

/-- A body is a plain select, and a tree is made of it. -/
def Body.IsSelect (body : Body) (tree : Tree.Select) : Prop :=
  ∃ select before after, body = .select select ∧ select.lower before = .ok (tree, after)

/-- What the body of a query combines if the placeholders are numbered from `before` on, and the
number they end with. Each select is made with the placeholders numbered that stand in front of
it: those of the selects on its left, and those of the clauses of the queries in parentheses. -/
inductive Body.Combines : (body : Body) → (before : Nat) → Combination Tree.Select →
    (after : Nat) → Prop where
  | select {select : Select} {before after : Nat} {tree : Tree.Select}
      (lowered : select.lower before = .ok (tree, after)) :
      Combines (.select select) before (.leaf tree) after
  | query {query : Query} {combined : Combination Tree.Select}
      {tables : Option (List Tree.With)} {keys : List Tree.Order} {limit offset : Option Tree.Expr}
      {before bodyBefore keysBefore limitBefore offsetBefore after : Nat}
      (tablesMade : lowerWith query.withClause before = .ok (tables, bodyBefore))
      (inner : Combines query.body bodyBefore combined keysBefore)
      (keysMade : lowerOrder query.order keysBefore = .ok (keys, limitBefore))
      (limitMade : lowerOption query.limit limitBefore = .ok (limit, offsetBefore))
      (offsetMade : lowerOption query.offset offsetBefore = .ok (offset, after)) :
      Combines (.query query) before combined after
  | operation (kind : Tree.SetKind) (quantifier : SetQuantifier) {left right : Body}
      {leftCombined rightCombined : Combination Tree.Select} {before middle after : Nat}
      (lefts : Combines left before leftCombined middle)
      (rights : Combines right middle rightCombined after) :
      Combines (.operation kind quantifier left right) before
        (.operation kind (quantifier = .all) leftCombined rightCombined) after

/-- What a body combines are its own selects, by its own operations. -/
theorem Body.Combines.related {body : Body} {combined : Combination Tree.Select}
    {before after : Nat} (combines : body.Combines before combined after) :
    body.combination.Related Body.IsSelect combined := by
  induction combines with
  | select lowered =>
    simp only [Body.combination]
    exact .leaf ⟨_, _, _, rfl, lowered⟩
  | @query query _ _ _ _ _ _ _ _ _ _ _ _ _ _ _ _ inductionHypothesis =>
    cases query
    rw [Body.combination, Query.combination]
    exact inductionHypothesis
  | operation kind quantifier _ _ leftHypothesis rightHypothesis =>
    rw [Body.combination]
    exact .operation kind _ leftHypothesis rightHypothesis

/-- The tree of a select by itself has no clause that a query puts into it. -/
theorem Select.makes_core (select : Select) :
    Makes select.lower fun tree => tree.core = tree ∧ tree.setOperations = none := by
  cases select
  rw [Select.lower]
  refine (makes_any _).bind fun _ _ => ?_
  refine (makes_any _).bind fun selectDistinct _ => ?_
  refine (makes_any _).bind fun selectList _ => ?_
  refine (makes_any _).bind fun fromTable _ => ?_
  refine (makes_any _).bind fun whereClause _ => ?_
  refine (makes_any _).bind fun columns _ => ?_
  refine (makes_any _).bind fun having _ => ?_
  exact makes_pure ⟨rfl, rfl⟩

/-- The steps that the tree of a query takes. -/
theorem Query.lower_eq_ok {query : Query} {before after : Nat} {tree : Tree.Select}
    (lowered : query.lower before = .ok (tree, after)) :
    ∃ tables inner middle keys limit offset bodyBefore keysBefore limitBefore offsetBefore,
      lowerWith query.withClause before = .ok (tables, bodyBefore) ∧
      query.body.lower bodyBefore = .ok (inner, keysBefore) ∧
      fillTables tables inner = .ok middle ∧
      lowerOrder query.order keysBefore = .ok (keys, limitBefore) ∧
      lowerOption query.limit limitBefore = .ok (limit, offsetBefore) ∧
      lowerOption query.offset offsetBefore = .ok (offset, after) ∧
      fillRows query.body.isCompound (sort keys) (Sql.rows limit offset) middle = .ok tree := by
  cases query with
  | mk withClause body order limit limitBy offset offsetRows fetch locks =>
    rw [Query.lower] at lowered
    split at lowered
    · obtain ⟨tables, bodyBefore, tablesMade, bodyNext⟩ := run_bind_eq_ok.mp lowered
      obtain ⟨inner, keysBefore, innerMade, slotNext⟩ := run_bind_eq_ok.mp bodyNext
      obtain ⟨middle, _, slotDone, keysNext⟩ := run_bind_eq_ok.mp slotNext
      obtain ⟨rfl, tablesDone⟩ := run_lift_eq_ok.mp slotDone
      obtain ⟨keys, limitBefore, keysMade, limitNext⟩ := run_bind_eq_ok.mp keysNext
      obtain ⟨limit, offsetBefore, limitMade, offsetNext⟩ := run_bind_eq_ok.mp limitNext
      obtain ⟨offset, _, offsetMade, rowsNext⟩ := run_bind_eq_ok.mp offsetNext
      obtain ⟨rfl, rowsDone⟩ := run_lift_eq_ok.mp rowsNext
      exact ⟨tables, inner, middle, keys, limit, offset, bodyBefore, _, limitBefore, offsetBefore,
        tablesMade, innerMade, tablesDone, keysMade, limitMade, offsetMade, rowsDone⟩
    · cases lowered

mutual

theorem Query.combines_lower : (query : Query) → {before after : Nat} → {tree : Tree.Select} →
    query.lower before = .ok (tree, after) →
    (Body.query query).Combines before tree.combination after
  | ⟨_, body, _, _, _, _, _, _, _⟩, _, _, _, lowered => by
    obtain ⟨tables, inner, middle, keys, limit, offset, bodyBefore, keysBefore, limitBefore,
      offsetBefore, tablesMade, innerMade, tablesDone, keysMade, limitMade, offsetMade, rowsDone⟩ :=
      Query.lower_eq_ok lowered
    rw [combination_fillRows rowsDone, combination_fillTables tablesDone]
    exact .query tablesMade (body.combines_lower innerMade) keysMade limitMade offsetMade

theorem Body.combines_lower : (body : Body) → {before after : Nat} → {tree : Tree.Select} →
    body.lower before = .ok (tree, after) → body.Combines before tree.combination after
  | .select select, before, after, tree, lowered => by
    simp only [Body.lower] at lowered
    obtain ⟨core, alone⟩ := select.makes_core before tree after lowered
    rw [Tree.Select.combination_eq_foldl, alone, core]
    exact .select lowered
  | .query query, _, _, _, lowered => by
    rw [Body.lower] at lowered
    exact query.combines_lower lowered
  | .operation kind quantifier left right, before, _, _, lowered => by
    rw [Body.lower] at lowered
    obtain ⟨isAll, _, flagged, leftNext⟩ := run_bind_eq_ok.mp lowered
    obtain ⟨rfl, flag⟩ := steady_keepsAll quantifier before isAll _ flagged
    obtain ⟨select, middle, leftMade, rightNext⟩ := run_bind_eq_ok.mp leftNext
    obtain ⟨nestedSelect, after, rightMade, same⟩ := run_bind_eq_ok.mp rightNext
    cases same
    rw [combination_addOperation, Tree.SetOperation.combine, flag]
    exact .operation kind quantifier (left.combines_lower leftMade)
      (right.combines_lower rightMade)
  | .values _, _, _, _, lowered => by
    rw [Body.lower] at lowered
    cases lowered
  | .phrase _, _, _, _, lowered => by
    rw [Body.lower] at lowered
    cases lowered

end

/-- A tree combines the same selects by the same set operations as the query it is made of, and
the selects are made from the left to the right, each with the placeholders numbered that stand in
front of it. -/
theorem Query.combination_lower {query : Query} {before after : Nat} {tree : Tree.Select}
    (lowered : query.lower before = .ok (tree, after)) :
    query.combination.Related Body.IsSelect tree.combination ∧
      (Body.query query).Combines before tree.combination after := by
  have combines := query.combines_lower lowered
  have related := combines.related
  rw [Body.combination] at related
  exact ⟨related, combines⟩

/-- A select of one value. -/
def Body.ofValue (value : Literal) : Body :=
  .select ⟨.no, [], [.expr (.literal value) none], [], [], [], none, .keys [], [], none, [], []⟩

/-- A query without any clause around its body. -/
def Query.ofBody (body : Body) : Query := ⟨none, body, [], none, [], none, .unmarked, [], []⟩

/-- Two set operations in parentheses, combined by a third one. A named query stands before the
left one, its rows are sorted, and those of the whole are limited. -/
def Query.someOperations : Query :=
  let one : Expr := .literal (.number "1" false)
  let left : Query :=
    { ofBody (.operation .union .all (.ofValue .null) (.ofValue (.placeholder "?"))) with
      withClause := some ⟨false, [⟨⟨⟨"w", none⟩, []⟩, ofBody (.ofValue .null), none⟩]⟩
      order := [⟨one, none, none⟩] }
  let right : Query :=
    ofBody (.operation .intersect .unmarked (.ofValue (.boolean true)) (.ofValue (.boolean false)))
  { ofBody (.operation .except .distinct (.query left) (.query right)) with limit := some one }

theorem Query.combination_lower_someOperations :
    ∃ tree, someOperations.lower 0 = .ok (tree, 1) ∧
      (Combination.operation .except false
        (.operation .union true (.leaf (.ofValue .null)) (.leaf (.ofValue (.placeholder "?"))))
        (.operation .intersect false (.leaf (.ofValue (.boolean true)))
          (.leaf (.ofValue (.boolean false))))).Related Body.IsSelect tree.combination ∧
      (Body.query someOperations).Combines 0 tree.combination 1 := by
  have numbered : (someOperations.lower 0).map Prod.snd = .ok 1 := by rfl
  cases lowered : someOperations.lower 0 with
  | error cause =>
    rw [lowered] at numbered
    cases numbered
  | ok outcome =>
    obtain ⟨tree, after⟩ := outcome
    rw [lowered] at numbered
    cases numbered
    exact ⟨tree, rfl, combination_lower lowered⟩

end Sql

end SqlImage
