/-
This file says when a tree is well formed: every expression fills the fields that
its kind and its operator call for and leaves the others empty, a table reference
has the payload of its kind, no list that stands for a clause is empty, and the
form of a statement agrees with its kind, at every depth.
-/

import SqlImage.Tree.Basic

namespace SqlImage.Tree

/-! ### The fields that an expression fills -/

/-- Whether a field is empty, is filled, or may be either. -/
inductive Filling where
  | empty
  | free
  | filled
deriving DecidableEq, Repr

/-- Whether a field that is filled or not is as it should be. -/
def Filling.admits : Filling → (isFilled : Bool) → Bool
  | .empty, isFilled => !isFilled
  | .free, _ => true
  | .filled, isFilled => isFilled

/-- How expressions of some kind fill their fields. Zero, false and no field of a date count as
empty. -/
structure Form where
  expr : Filling := .empty
  expr2 : Filling := .empty
  exprList : Filling := .empty
  select : Filling := .empty
  name : Filling := .empty
  table : Filling := .empty
  fval : Filling := .empty
  ival : Filling := .empty
  datetimeField : Filling := .empty
  isBoolLiteral : Filling := .empty
  distinct : Filling := .empty
deriving DecidableEq, Repr

/-- Whether an expression fills its fields as a form says. -/
def Form.admits (form : Form) (expr : Expr) : Bool :=
  form.expr.admits expr.expr.isSome &&
  form.expr2.admits expr.expr2.isSome &&
  form.exprList.admits expr.exprList.isSome &&
  form.select.admits expr.select.isSome &&
  form.name.admits expr.name.isSome &&
  form.table.admits expr.table.isSome &&
  form.fval.admits (expr.fval ≠ .zero) &&
  form.ival.admits (expr.ival ≠ 0) &&
  form.datetimeField.admits (expr.datetimeField ≠ .none) &&
  form.isBoolLiteral.admits expr.isBoolLiteral &&
  form.distinct.admits expr.distinct

/-- The form of an operator with one operand. -/
def Form.unary : Form := { expr := .filled }

/-- The form of an operator with two operands. -/
def Form.binary : Form := { expr := .filled, expr2 := .filled }

/-- The forms that an expression may have which is an operator. What is tested for being in
something is tested for a list or for the rows of a subquery. -/
def Operator.forms : Operator → List Form
  | .none => []
  | .not | .unaryMinus | .isNull => [.unary]
  | .between => [{ expr := .filled, exprList := .filled }]
  | .isIn => [{ expr := .filled, exprList := .filled }, .binary]
  | .case => [{ expr := .free, expr2 := .free, exprList := .filled }]
  | .hasRow => [{ select := .filled }]
  | _ => [.binary]

/-- The forms that an expression may have by its kind and its operator. A function has arguments,
or takes a field out of a date. Hints do not occur. -/
def Expr.forms : ExprKind → Operator → List Form
  | .literalFloat, .none => [{ fval := .free }]
  | .literalString, .none => [{ name := .filled }]
  | .literalInt, .none => [{ ival := .free, isBoolLiteral := .free }]
  | .literalNull, .none => [{}]
  | .star, .none => [{ table := .free }]
  | .parameter, .none => [{ ival := .free }]
  | .columnRef, .none => [{ name := .filled, table := .free }]
  | .functionRef, .none =>
    [{ name := .filled, exprList := .filled, distinct := .free },
      { name := .filled, expr := .filled, datetimeField := .filled }]
  | .select, .none => [{ select := .filled }]
  | .array, .none => [{ exprList := .filled }]
  | .arrayIndex, .none => [{ expr := .filled, ival := .free }]
  | .datetimeField, .none => [{ expr := .filled, datetimeField := .filled }]
  | .operator, opType => opType.forms
  | _, _ => []

/-- What an expression is to look like as far as its own fields go. -/
structure Expr.Shaped (expr : Expr) : Prop where
  form : (Expr.forms expr.kind expr.opType).any (·.admits expr) = true
  ival2 : expr.ival2 = 0
  /-- Something lies between two bounds. -/
  bounds : expr.isOperator .between = true → ∀ list ∈ expr.exprList, list.length = 2
  /-- What is tested for being in something other than a list is tested for a subquery. -/
  rows : expr.isOperator .isIn = true → ∀ right ∈ expr.expr2, right.kind = .select
  /-- The one function that has no arguments. -/
  extract : expr.kind = .functionRef → expr.expr.isSome = true → expr.name = some "EXTRACT"
  truth : expr.isBoolLiteral = true → expr.ival = 0 ∨ expr.ival = 1

/-! ### Where an expression stands -/

/-- What an expression is a part of: a select list, a choice of which it is a branch, or anything
else. -/
inductive Role where
  | item
  | branch
  | operand
deriving DecidableEq, Repr

/-- Whether an expression may play a role. Branches stand in choices and nowhere else, and only an
item of a select list has an alias. -/
def Role.Admits (role : Role) (expr : Expr) : Prop :=
  (expr.isOperator .caseBranch = true ↔ role = .branch) ∧ (role ≠ .item → expr.label = none)

/-- What the expressions in the list of an expression are to it. -/
def Expr.partRole (expr : Expr) : Role :=
  if expr.isOperator .case then .branch else .operand

/-! ### The payload of a table reference -/

/-- What a table reference is to look like as far as its own fields go. -/
structure TableRef.Shaped (table : TableRef) : Prop where
  schema : table.schema.isSome = true → table.kind = .name
  name : table.name.isSome = decide (table.kind = .name)
  select : table.select.isSome = decide (table.kind = .select)
  join : table.join.isSome = decide (table.kind = .join)
  list : table.list.isSome = decide (table.kind = .crossProduct)
  several : ∀ list ∈ table.list, 2 ≤ list.length
  label : table.kind = .crossProduct → table.label = none

/-- Whether a join has to do without a condition. -/
def JoinKind.isUnconditional (kind : JoinKind) : Bool := kind = .cross || kind = .natural

/-! ### Well-formedness at every depth -/

mutual

/-- An expression in a role, with everything in it. -/
inductive Expr.WellFormed : Role → Expr → Prop where
  | intro {role : Role} {expr : Expr} (shaped : expr.Shaped) (admitted : role.Admits expr)
      (first : ∀ part ∈ expr.expr, Expr.WellFormed .operand part)
      (second : ∀ part ∈ expr.expr2, Expr.WellFormed .operand part)
      (parts : ∀ list ∈ expr.exprList, ∀ part ∈ list, Expr.WellFormed expr.partRole part)
      (select : ∀ select ∈ expr.select, Select.WellFormed select) :
      Expr.WellFormed role expr

/-- A select with all its clauses. -/
inductive Select.WellFormed : Select → Prop where
  | intro {select : Select} (kind : select.base.kind = .select) (hints : select.base.hints = none)
      (tables : ∀ table ∈ select.fromTable, TableRef.WellFormed table)
      (someItems : select.selectList.isSome = true)
      (items : ∀ list ∈ select.selectList, ∀ item ∈ list, Expr.WellFormed .item item)
      (whereClause : ∀ condition ∈ select.whereClause, Expr.WellFormed .operand condition)
      (groupBy : ∀ groupBy ∈ select.groupBy, GroupBy.WellFormed groupBy)
      (someOperation : select.setOperations ≠ some [])
      (operations : ∀ list ∈ select.setOperations, ∀ operation ∈ list,
        SetOperation.WellFormed operation)
      (someKey : select.order ≠ some [])
      (order : ∀ list ∈ select.order, ∀ key ∈ list, Order.WellFormed key)
      (withDescriptions : ∀ list ∈ select.withDescriptions, ∀ table ∈ list, With.WellFormed table)
      (limit : ∀ limit ∈ select.limit, Limit.WellFormed limit) :
      Select.WellFormed select

/-- A table reference. Several tables side by side are no part of another table reference. -/
inductive TableRef.WellFormed : TableRef → Prop where
  | intro {table : TableRef} (shaped : table.Shaped)
      (select : ∀ select ∈ table.select, Select.WellFormed select)
      (single : ∀ list ∈ table.list, ∀ part ∈ list, part.kind ≠ .crossProduct)
      (list : ∀ list ∈ table.list, ∀ part ∈ list, TableRef.WellFormed part)
      (join : ∀ join ∈ table.join, Join.WellFormed join) :
      TableRef.WellFormed table

/-- A join. -/
inductive Join.WellFormed : Join → Prop where
  | intro {join : Join} (leftSingle : join.left.kind ≠ .crossProduct)
      (rightSingle : join.right.kind ≠ .crossProduct)
      (left : TableRef.WellFormed join.left) (right : TableRef.WellFormed join.right)
      (unconditional : join.kind.isUnconditional = true → join.condition = none)
      (condition : ∀ condition ∈ join.condition, Expr.WellFormed .operand condition) :
      Join.WellFormed join

/-- A grouping, which has keys or a condition. -/
inductive GroupBy.WellFormed : GroupBy → Prop where
  | intro {groupBy : GroupBy} (someKey : groupBy.columns ≠ some [])
      (present : groupBy.columns.isSome = true ∨ groupBy.having.isSome = true)
      (columns : ∀ list ∈ groupBy.columns, ∀ key ∈ list, Expr.WellFormed .operand key)
      (having : ∀ condition ∈ groupBy.having, Expr.WellFormed .operand condition) :
      GroupBy.WellFormed groupBy

/-- One key of a sort. -/
inductive Order.WellFormed : Order → Prop where
  | intro {order : Order} (expr : Expr.WellFormed .operand order.expr) : Order.WellFormed order

/-- A named subquery. -/
inductive With.WellFormed : With → Prop where
  | intro {table : With} (select : Select.WellFormed table.select) : With.WellFormed table

/-- A limit, which says how many rows are wanted or how many are left out. -/
inductive Limit.WellFormed : Limit → Prop where
  | intro {rows : Limit} (present : rows.limit.isSome = true ∨ rows.offset.isSome = true)
      (limit : ∀ count ∈ rows.limit, Expr.WellFormed .operand count)
      (offset : ∀ count ∈ rows.offset, Expr.WellFormed .operand count) :
      Limit.WellFormed rows

/-- A set operation. -/
inductive SetOperation.WellFormed : SetOperation → Prop where
  | intro {operation : SetOperation} (nestedSelect : Select.WellFormed operation.nestedSelect)
      (someKey : operation.resultOrder ≠ some [])
      (order : ∀ list ∈ operation.resultOrder, ∀ key ∈ list, Order.WellFormed key)
      (limit : ∀ limit ∈ operation.resultLimit, Limit.WellFormed limit) :
      SetOperation.WellFormed operation

end

/-- The same statement without the clauses of a select. -/
def Statement.bare : Statement → Statement
  | .select body => .select (.ofBase body.base)
  | statement => statement

/-- A statement whose form is the one that its kind calls for. -/
structure Statement.WellFormed (statement : Statement) : Prop where
  form : statement.bare = .ofBase statement.base
  hints : statement.base.hints = none
  body : ∀ body ∈ statement.select?, body.WellFormed

/-- A result whose statements are all well formed. -/
def ParseResult.WellFormed (result : ParseResult) : Prop :=
  ∀ statement ∈ result.statements, statement.WellFormed

/-! ### Statements by their form -/

namespace Statement

theorem ofBase_of_select {base : Base} (tagged : base.kind = .select) :
    ofBase base = .select (.ofBase base) := by
  rw [ofBase, tagged]

/-- A well-formed select is a well-formed statement. -/
theorem wellFormed_select {body : Select} (wellFormed : body.WellFormed) :
    (select body).WellFormed := by
  have whole := wellFormed
  obtain ⟨kind, hints⟩ := wellFormed
  exact ⟨(ofBase_of_select kind).symm, hints, fun _ same => Option.some.inj same ▸ whole⟩

/-- A statement of another kind is made of its kind alone. -/
theorem wellFormed_ofKind {kind : StatementKind} (isOther : kind ≠ .select) :
    (ofBase (.ofKind kind)).WellFormed := by
  cases kind <;> first | exact absurd rfl isOther | exact ⟨rfl, rfl, nofun⟩

/-- The length of a statement has no bearing on its form. -/
theorem WellFormed.withLength {statement : Statement} (wellFormed : statement.WellFormed)
    (length : UInt64) : (statement.withLength length).WellFormed := by
  obtain ⟨form, hints, body⟩ := wellFormed
  cases statement with
  | select select =>
    obtain ⟨kind, selectHints, tables, someItems, items, condition, groupBy, someOperation,
      operations, someKey, keys, withDescriptions, limits⟩ := body select rfl
    exact wellFormed_select ⟨kind, selectHints, tables, someItems, items, condition, groupBy,
      someOperation, operations, someKey, keys, withDescriptions, limits⟩
  | insert base | update base | delete base | other base =>
    obtain ⟨kind, _, _⟩ := base
    refine ⟨?_, hints, nofun⟩
    cases kind <;> first | rfl | cases form

end Statement

/-! ### Expressions by the functions that build them -/

theorem forall_mem_some {α : Type} {property : α → Prop} {value : α} (holds : property value) :
    ∀ element ∈ some value, property element :=
  fun _ same => Option.some.inj same ▸ holds

namespace Role

theorem admits_operand {expr : Expr} (isOther : expr.isOperator .caseBranch = false)
    (plain : expr.label = none) : operand.Admits expr :=
  ⟨by rw [isOther]; decide, fun _ => plain⟩

end Role

namespace Expr

theorem wellFormed_literalFloat (value : Double) : (literalFloat value).WellFormed .operand :=
  ⟨⟨rfl, rfl, nofun, nofun, nofun, nofun⟩, Role.admits_operand rfl rfl, nofun, nofun, nofun, nofun⟩

theorem wellFormed_literalString (value : String) : (literalString value).WellFormed .operand :=
  ⟨⟨rfl, rfl, nofun, nofun, nofun, nofun⟩, Role.admits_operand rfl rfl, nofun, nofun, nofun, nofun⟩

theorem wellFormed_literalInt (value : Int64) : (literalInt value).WellFormed .operand :=
  ⟨⟨rfl, rfl, nofun, nofun, nofun, nofun⟩, Role.admits_operand rfl rfl, nofun, nofun, nofun, nofun⟩

theorem wellFormed_literalBool (value : Bool) : (literalBool value).WellFormed .operand :=
  ⟨⟨rfl, rfl, nofun, nofun, nofun, fun _ => by cases value <;> decide⟩,
    Role.admits_operand rfl rfl, nofun, nofun, nofun, nofun⟩

theorem wellFormed_literalNull : literalNull.WellFormed .operand :=
  ⟨⟨rfl, rfl, nofun, nofun, nofun, nofun⟩, Role.admits_operand rfl rfl, nofun, nofun, nofun, nofun⟩

theorem wellFormed_star (table : Option String) : (star table).WellFormed .operand :=
  ⟨⟨rfl, rfl, nofun, nofun, nofun, nofun⟩, Role.admits_operand rfl rfl, nofun, nofun, nofun, nofun⟩

theorem wellFormed_parameter (index : Int64) : (parameter index).WellFormed .operand :=
  ⟨⟨rfl, rfl, nofun, nofun, nofun, nofun⟩, Role.admits_operand rfl rfl, nofun, nofun, nofun, nofun⟩

theorem wellFormed_columnRef (name : String) (table : Option String) :
    (columnRef name table).WellFormed .operand :=
  ⟨⟨rfl, rfl, nofun, nofun, nofun, nofun⟩, Role.admits_operand rfl rfl, nofun, nofun, nofun, nofun⟩

theorem wellFormed_functionRef (name : String) {arguments : List Expr} (distinct : Bool)
    (wellFormed : ∀ argument ∈ arguments, argument.WellFormed .operand) :
    (functionRef name arguments distinct).WellFormed .operand :=
  ⟨⟨rfl, rfl, nofun, nofun, nofun, nofun⟩, Role.admits_operand rfl rfl, nofun, nofun,
    forall_mem_some wellFormed, nofun⟩

theorem wellFormed_array {elements : List Expr}
    (wellFormed : ∀ element ∈ elements, element.WellFormed .operand) :
    (array elements).WellFormed .operand :=
  ⟨⟨rfl, rfl, nofun, nofun, nofun, nofun⟩, Role.admits_operand rfl rfl, nofun, nofun,
    forall_mem_some wellFormed, nofun⟩

theorem wellFormed_arrayIndex {expr : Expr} (wellFormed : expr.WellFormed .operand)
    (index : Int64) : (arrayIndex expr index).WellFormed .operand :=
  ⟨⟨rfl, rfl, nofun, nofun, nofun, nofun⟩, Role.admits_operand rfl rfl,
    forall_mem_some wellFormed, nofun, nofun, nofun⟩

theorem wellFormed_subquery {select : Select} (wellFormed : select.WellFormed) :
    (subquery select).WellFormed .operand :=
  ⟨⟨rfl, rfl, nofun, nofun, nofun, nofun⟩, Role.admits_operand rfl rfl, nofun, nofun, nofun,
    forall_mem_some wellFormed⟩

theorem wellFormed_hasRow {select : Select} (wellFormed : select.WellFormed) :
    (hasRow select).WellFormed .operand :=
  ⟨⟨rfl, rfl, nofun, nofun, nofun, nofun⟩, Role.admits_operand rfl rfl, nofun, nofun, nofun,
    forall_mem_some wellFormed⟩

theorem wellFormed_extract {field : DatetimeField} (isField : field ≠ .none) {expr : Expr}
    (wellFormed : expr.WellFormed .operand) : (extract field expr).WellFormed .operand :=
  ⟨⟨by cases field <;> first | rfl | exact absurd rfl isField, rfl, nofun, nofun,
      fun _ _ => rfl, nofun⟩,
    Role.admits_operand rfl rfl, forall_mem_some wellFormed, nofun, nofun, nofun⟩

theorem wellFormed_interval {field : DatetimeField} (isField : field ≠ .none) {value : Expr}
    (wellFormed : value.WellFormed .operand) : (interval field value).WellFormed .operand :=
  ⟨⟨by cases field <;> first | rfl | exact absurd rfl isField, rfl, nofun, nofun, nofun, nofun⟩,
    Role.admits_operand rfl rfl, forall_mem_some wellFormed, nofun, nofun, nofun⟩

/-! ### Operators -/

theorem wellFormed_unary {opType : Operator} (forms : opType.forms = [.unary]) {expr : Expr}
    (wellFormed : expr.WellFormed .operand) : (unary opType expr).WellFormed .operand := by
  refine ⟨⟨?_, rfl, fun _ => nofun, fun _ => nofun, nofun, nofun⟩, Role.admits_operand ?_ rfl,
    forall_mem_some wellFormed, nofun, nofun, nofun⟩
  · rw [show Expr.forms _ _ = opType.forms from rfl, forms]
    rfl
  · cases opType <;> first | rfl | cases forms

theorem shaped_binary {opType : Operator} (forms : opType.forms = [.binary]) (left right : Expr) :
    (binary opType left right).Shaped := by
  refine ⟨?_, rfl, fun _ => nofun, fun isIn => ?_, nofun, nofun⟩
  · rw [show Expr.forms _ _ = opType.forms from rfl, forms]
    rfl
  · cases opType <;> first | cases isIn; done | cases forms

theorem wellFormed_binary {opType : Operator} (forms : opType.forms = [.binary])
    (isOther : opType ≠ .caseBranch) {left right : Expr} (leftWell : left.WellFormed .operand)
    (rightWell : right.WellFormed .operand) : (binary opType left right).WellFormed .operand := by
  have isPlain : (binary opType left right).isOperator .caseBranch = false :=
    decide_eq_false isOther
  exact ⟨shaped_binary forms left right, Role.admits_operand isPlain rfl,
    forall_mem_some leftWell, forall_mem_some rightWell, nofun, nofun⟩

theorem wellFormed_caseBranch {condition result : Expr}
    (conditionWell : condition.WellFormed .operand) (resultWell : result.WellFormed .operand) :
    (caseBranch condition result).WellFormed .branch :=
  ⟨shaped_binary rfl condition result, ⟨⟨fun _ => rfl, fun _ => rfl⟩, fun _ => rfl⟩,
    forall_mem_some conditionWell, forall_mem_some resultWell, nofun, nofun⟩

theorem wellFormed_case {operand otherwise : Option Expr} {branches : List Expr}
    (operandWell : ∀ expr ∈ operand, expr.WellFormed .operand)
    (branchesWell : ∀ branch ∈ branches, branch.WellFormed .branch)
    (otherwiseWell : ∀ expr ∈ otherwise, expr.WellFormed .operand) :
    (case operand branches otherwise).WellFormed .operand :=
  ⟨⟨rfl, rfl, nofun, nofun, nofun, nofun⟩, Role.admits_operand rfl rfl, operandWell, otherwiseWell,
    forall_mem_some branchesWell, nofun⟩

theorem wellFormed_between {expr low high : Expr} (wellFormed : expr.WellFormed .operand)
    (lowWell : low.WellFormed .operand) (highWell : high.WellFormed .operand) :
    (between expr low high).WellFormed .operand :=
  ⟨⟨rfl, rfl, fun _ => forall_mem_some rfl, nofun, nofun, nofun⟩, Role.admits_operand rfl rfl,
    forall_mem_some wellFormed, nofun,
    forall_mem_some (List.forall_mem_cons.mpr ⟨lowWell, List.forall_mem_singleton.mpr highWell⟩),
    nofun⟩

theorem wellFormed_inList {expr : Expr} {list : List Expr} (wellFormed : expr.WellFormed .operand)
    (listWell : ∀ element ∈ list, element.WellFormed .operand) :
    (inList expr list).WellFormed .operand :=
  ⟨⟨rfl, rfl, nofun, nofun, nofun, nofun⟩, Role.admits_operand rfl rfl,
    forall_mem_some wellFormed, nofun, forall_mem_some listWell, nofun⟩

theorem wellFormed_inSelect {expr : Expr} {select : Select} (wellFormed : expr.WellFormed .operand)
    (selectWell : select.WellFormed) : (inSelect expr select).WellFormed .operand :=
  ⟨⟨rfl, rfl, nofun, fun _ => forall_mem_some rfl, nofun, nofun⟩, Role.admits_operand rfl rfl,
    forall_mem_some wellFormed, forall_mem_some (wellFormed_subquery selectWell), nofun, nofun⟩

/-- An operand may stand in a select list. -/
theorem WellFormed.item {expr : Expr} (wellFormed : expr.WellFormed .operand) :
    expr.WellFormed .item := by
  obtain ⟨shaped, admitted, first, second, parts, select⟩ := wellFormed
  exact ⟨shaped, ⟨admitted.1.trans (by decide), fun other => absurd rfl other⟩, first, second,
    parts, select⟩

/-- An item of a select list may get an alias. -/
theorem WellFormed.withAlias {expr : Expr} (wellFormed : expr.WellFormed .item) (label : String) :
    (expr.withAlias label).WellFormed .item := by
  obtain ⟨⟨form, ival2, bounds, rows, extract, truth⟩, admitted, first, second, parts, select⟩ :=
    wellFormed
  exact ⟨⟨form, ival2, bounds, rows, extract, truth⟩,
    ⟨admitted.1, fun other => absurd rfl other⟩, first, second, parts, select⟩

end Expr

/-! ### Table references by the functions that build them -/

namespace TableRef

theorem wellFormed_named (schema : Option String) (name : String) :
    (named schema name).WellFormed :=
  ⟨⟨fun _ => rfl, rfl, rfl, rfl, rfl, nofun, nofun⟩, nofun, nofun, nofun, nofun⟩

theorem wellFormed_subquery {select : Select} (wellFormed : select.WellFormed) :
    (subquery select).WellFormed :=
  ⟨⟨nofun, rfl, rfl, rfl, rfl, nofun, nofun⟩, forall_mem_some wellFormed, nofun, nofun, nofun⟩

theorem wellFormed_ofJoin {join : Join} (wellFormed : join.WellFormed) :
    (ofJoin join).WellFormed :=
  ⟨⟨nofun, rfl, rfl, rfl, rfl, nofun, nofun⟩, nofun, nofun, nofun, forall_mem_some wellFormed⟩

theorem wellFormed_crossProduct {list : List TableRef} (several : 2 ≤ list.length)
    (single : ∀ table ∈ list, table.kind ≠ .crossProduct)
    (wellFormed : ∀ table ∈ list, table.WellFormed) : (crossProduct list).WellFormed :=
  ⟨⟨nofun, rfl, rfl, rfl, rfl, forall_mem_some several, fun _ => rfl⟩, nofun,
    forall_mem_some single, forall_mem_some wellFormed, nofun⟩

/-- Any table reference may get an alias, save several tables side by side. -/
theorem WellFormed.withLabel {table : TableRef} (wellFormed : table.WellFormed)
    (single : table.kind ≠ .crossProduct) (label : Option Alias) :
    { table with label }.WellFormed := by
  obtain ⟨⟨schema, name, select, join, list, several, -⟩, selects, singles, lists, joins⟩ :=
    wellFormed
  exact ⟨⟨schema, name, select, join, list, several, fun isCross => absurd isCross single⟩,
    selects, singles, lists, joins⟩

end TableRef

end SqlImage.Tree
