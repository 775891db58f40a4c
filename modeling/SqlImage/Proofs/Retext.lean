/-
This file changes the texts of a well-formed tree. It stays well formed whatever
texts it gets, if the name of the one function that is told by its name stays. An
image does no more than that to a well-formed statement: it cuts the texts, and
the form of the statement agrees with its kind already.
-/

import Mathlib.Data.Option.Basic
import SqlImage.Proofs.Normal
import SqlImage.Proofs.WellFormed

namespace SqlImage.Tree

open SqlImage.Image

/-! ### Changing the texts -/

section Texts

variable (change : String → String)

/-- The same statement with every text changed. -/
def Statement.mapTexts : Statement → Statement
  | .select body => .select (body.mapTexts change)
  | .insert base => .insert (base.mapTexts change)
  | .update base => .update (base.mapTexts change)
  | .delete base => .delete (base.mapTexts change)
  | .other base => .other (base.mapTexts change)

/-- The same result with every text of its statements changed. -/
def ParseResult.mapTexts : ParseResult → ParseResult
  | .valid statements => .valid (statements.map (·.mapTexts change))
  | .invalid error => .invalid { error with message := change error.message }

theorem optionalExprMapTexts_eq (expr : Option Expr) :
    optionalExprMapTexts change expr = expr.map (·.mapTexts change) := by
  cases expr <;> rfl

theorem exprsMapTexts_eq (exprs : List Expr) :
    exprsMapTexts change exprs = exprs.map (·.mapTexts change) := by
  induction exprs with
  | nil => rfl
  | cons _ _ inductionHypothesis => rw [exprsMapTexts, inductionHypothesis, List.map_cons]

theorem optionalExprsMapTexts_eq (exprs : Option (List Expr)) :
    optionalExprsMapTexts change exprs = exprs.map (·.map (·.mapTexts change)) := by
  cases exprs with
  | none => rfl
  | some exprs => rw [optionalExprsMapTexts, exprsMapTexts_eq, Option.map_some]

theorem optionalSelectMapTexts_eq (select : Option Select) :
    optionalSelectMapTexts change select = select.map (·.mapTexts change) := by
  cases select <;> rfl

theorem optionalTableRefMapTexts_eq (table : Option TableRef) :
    optionalTableRefMapTexts change table = table.map (·.mapTexts change) := by
  cases table <;> rfl

theorem tableRefsMapTexts_eq (tables : List TableRef) :
    tableRefsMapTexts change tables = tables.map (·.mapTexts change) := by
  induction tables with
  | nil => rfl
  | cons _ _ inductionHypothesis => rw [tableRefsMapTexts, inductionHypothesis, List.map_cons]

theorem optionalTableRefsMapTexts_eq (tables : Option (List TableRef)) :
    optionalTableRefsMapTexts change tables = tables.map (·.map (·.mapTexts change)) := by
  cases tables with
  | none => rfl
  | some tables => rw [optionalTableRefsMapTexts, tableRefsMapTexts_eq, Option.map_some]

theorem optionalJoinMapTexts_eq (join : Option Join) :
    optionalJoinMapTexts change join = join.map (·.mapTexts change) := by
  cases join <;> rfl

theorem optionalGroupByMapTexts_eq (groupBy : Option GroupBy) :
    optionalGroupByMapTexts change groupBy = groupBy.map (·.mapTexts change) := by
  cases groupBy <;> rfl

theorem ordersMapTexts_eq (orders : List Order) :
    ordersMapTexts change orders = orders.map (·.mapTexts change) := by
  induction orders with
  | nil => rfl
  | cons _ _ inductionHypothesis => rw [ordersMapTexts, inductionHypothesis, List.map_cons]

theorem optionalOrdersMapTexts_eq (orders : Option (List Order)) :
    optionalOrdersMapTexts change orders = orders.map (·.map (·.mapTexts change)) := by
  cases orders with
  | none => rfl
  | some orders => rw [optionalOrdersMapTexts, ordersMapTexts_eq, Option.map_some]

theorem withsMapTexts_eq (withs : List With) :
    withsMapTexts change withs = withs.map (·.mapTexts change) := by
  induction withs with
  | nil => rfl
  | cons _ _ inductionHypothesis => rw [withsMapTexts, inductionHypothesis, List.map_cons]

theorem optionalWithsMapTexts_eq (withs : Option (List With)) :
    optionalWithsMapTexts change withs = withs.map (·.map (·.mapTexts change)) := by
  cases withs with
  | none => rfl
  | some withs => rw [optionalWithsMapTexts, withsMapTexts_eq, Option.map_some]

theorem optionalLimitMapTexts_eq (limit : Option Limit) :
    optionalLimitMapTexts change limit = limit.map (·.mapTexts change) := by
  cases limit <;> rfl

theorem setOperationsMapTexts_eq (operations : List SetOperation) :
    setOperationsMapTexts change operations = operations.map (·.mapTexts change) := by
  induction operations with
  | nil => rfl
  | cons _ _ inductionHypothesis => rw [setOperationsMapTexts, inductionHypothesis, List.map_cons]

theorem optionalSetOperationsMapTexts_eq (operations : Option (List SetOperation)) :
    optionalSetOperationsMapTexts change operations =
      operations.map (·.map (·.mapTexts change)) := by
  cases operations with
  | none => rfl
  | some operations => rw [optionalSetOperationsMapTexts, setOperationsMapTexts_eq, Option.map_some]

/-! ### The fields of an expression and of a table reference with other texts -/

@[simp] theorem Expr.kind_mapTexts (expr : Expr) : (expr.mapTexts change).kind = expr.kind := by
  cases expr
  rfl

@[simp] theorem Expr.opType_mapTexts (expr : Expr) :
    (expr.mapTexts change).opType = expr.opType := by
  cases expr
  rfl

@[simp] theorem Expr.expr_mapTexts (expr : Expr) :
    (expr.mapTexts change).expr = expr.expr.map (·.mapTexts change) := by
  cases expr
  exact optionalExprMapTexts_eq change _

@[simp] theorem Expr.expr2_mapTexts (expr : Expr) :
    (expr.mapTexts change).expr2 = expr.expr2.map (·.mapTexts change) := by
  cases expr
  exact optionalExprMapTexts_eq change _

@[simp] theorem Expr.exprList_mapTexts (expr : Expr) :
    (expr.mapTexts change).exprList = expr.exprList.map (·.map (·.mapTexts change)) := by
  cases expr
  exact optionalExprsMapTexts_eq change _

@[simp] theorem Expr.select_mapTexts (expr : Expr) :
    (expr.mapTexts change).select = expr.select.map (·.mapTexts change) := by
  cases expr
  exact optionalSelectMapTexts_eq change _

@[simp] theorem Expr.name_mapTexts (expr : Expr) :
    (expr.mapTexts change).name = expr.name.map change := by
  cases expr
  rfl

@[simp] theorem Expr.table_mapTexts (expr : Expr) :
    (expr.mapTexts change).table = expr.table.map change := by
  cases expr
  rfl

@[simp] theorem Expr.label_mapTexts (expr : Expr) :
    (expr.mapTexts change).label = expr.label.map change := by
  cases expr
  rfl

/-- The numbers and the flags of an expression are no texts. -/
theorem Expr.plain_mapTexts (expr : Expr) :
    (expr.mapTexts change).fval = expr.fval ∧ (expr.mapTexts change).ival = expr.ival ∧
      (expr.mapTexts change).ival2 = expr.ival2 ∧
      (expr.mapTexts change).datetimeField = expr.datetimeField ∧
      (expr.mapTexts change).isBoolLiteral = expr.isBoolLiteral ∧
      (expr.mapTexts change).distinct = expr.distinct := by
  cases expr
  exact ⟨rfl, rfl, rfl, rfl, rfl, rfl⟩

@[simp] theorem Expr.isOperator_mapTexts (opType : Operator) (expr : Expr) :
    (expr.mapTexts change).isOperator opType = expr.isOperator opType := by
  simp only [isOperator, kind_mapTexts, opType_mapTexts]

@[simp] theorem Expr.partRole_mapTexts (expr : Expr) :
    (expr.mapTexts change).partRole = expr.partRole := by
  simp only [partRole, isOperator_mapTexts]

@[simp] theorem TableRef.kind_mapTexts (table : TableRef) :
    (table.mapTexts change).kind = table.kind := by
  cases table
  rfl

@[simp] theorem TableRef.select_mapTexts (table : TableRef) :
    (table.mapTexts change).select = table.select.map (·.mapTexts change) := by
  cases table
  exact optionalSelectMapTexts_eq change _

@[simp] theorem TableRef.list_mapTexts (table : TableRef) :
    (table.mapTexts change).list = table.list.map (·.map (·.mapTexts change)) := by
  cases table
  exact optionalTableRefsMapTexts_eq change _

@[simp] theorem TableRef.join_mapTexts (table : TableRef) :
    (table.mapTexts change).join = table.join.map (·.mapTexts change) := by
  cases table
  exact optionalJoinMapTexts_eq change _

/-- The names of a table reference change one by one. -/
theorem TableRef.names_mapTexts (table : TableRef) :
    (table.mapTexts change).schema = table.schema.map change ∧
      (table.mapTexts change).name = table.name.map change ∧
      (table.mapTexts change).label = table.label.map (·.mapTexts change) := by
  cases table
  exact ⟨rfl, rfl, rfl⟩

variable {change}

theorem Form.admits_mapTexts (form : Form) (expr : Expr) :
    form.admits (expr.mapTexts change) = form.admits expr := by
  simp only [Form.admits, expr.plain_mapTexts change, Expr.expr_mapTexts, Expr.expr2_mapTexts,
    Expr.exprList_mapTexts, Expr.select_mapTexts, Expr.name_mapTexts, Expr.table_mapTexts,
    Option.isSome_map]

/-- An expression stays as it is to look if the name of the one function that is told by its name
does not change. -/
theorem Expr.Shaped.mapTexts {expr : Expr} (shaped : expr.Shaped)
    (keeps : change "EXTRACT" = "EXTRACT") : (expr.mapTexts change).Shaped := by
  constructor
  · simpa only [Form.admits_mapTexts, kind_mapTexts, opType_mapTexts] using shaped.form
  · simpa only [expr.plain_mapTexts change] using shaped.ival2
  · simpa only [isOperator_mapTexts, exprList_mapTexts, Option.forall_mem_map,
      List.length_map] using shaped.bounds
  · simpa only [isOperator_mapTexts, expr2_mapTexts, Option.forall_mem_map,
      kind_mapTexts] using shaped.rows
  · rw [kind_mapTexts, expr_mapTexts, Option.isSome_map, name_mapTexts]
    intro isFunction present
    rw [shaped.extract isFunction present, Option.map_some, keeps]
  · simpa only [expr.plain_mapTexts change] using shaped.truth

theorem Role.Admits.mapTexts {role : Role} {expr : Expr} (admitted : role.Admits expr) :
    role.Admits (expr.mapTexts change) := by
  refine ⟨by rw [Expr.isOperator_mapTexts, admitted.1], fun other => ?_⟩
  rw [Expr.label_mapTexts, admitted.2 other, Option.map_none]

theorem TableRef.Shaped.mapTexts {table : TableRef} (shaped : table.Shaped) :
    (table.mapTexts change).Shaped := by
  obtain ⟨schema, name, select, join, list, several, label⟩ := shaped
  constructor <;>
    simp only [table.names_mapTexts change, kind_mapTexts, select_mapTexts, list_mapTexts,
      join_mapTexts, Option.isSome_map, Option.forall_mem_map, List.length_map,
      Option.map_eq_none_iff] <;>
    assumption

theorem map_ne_some_nil {α : Type} {f : α → α} {list : Option (List α)} (filled : list ≠ some []) :
    list.map (·.map f) ≠ some [] := by
  intro empty
  obtain ⟨elements, rfl, none⟩ := Option.map_eq_some_iff.mp empty
  exact filled (congrArg some (List.map_eq_nil_iff.mp none))

end Texts

/-! ### Well-formed trees with other texts -/

section WellFormed

variable {change : String → String}

mutual

theorem Expr.WellFormed.mapTexts (keeps : change "EXTRACT" = "EXTRACT") :
    {role : Role} → {expr : Expr} → expr.WellFormed role → (expr.mapTexts change).WellFormed role
  | _, expr, ⟨shaped, admitted, first, second, parts, selects⟩ => by
    refine ⟨shaped.mapTexts keeps, admitted.mapTexts, ?_, ?_, ?_, ?_⟩
    · rw [expr.expr_mapTexts, Option.forall_mem_map]
      exact fun part member => (first part member).mapTexts keeps
    · rw [expr.expr2_mapTexts, Option.forall_mem_map]
      exact fun part member => (second part member).mapTexts keeps
    · simp only [expr.exprList_mapTexts, expr.partRole_mapTexts, Option.forall_mem_map,
        List.forall_mem_map]
      exact fun list member part among => (parts list member part among).mapTexts keeps
    · rw [expr.select_mapTexts, Option.forall_mem_map]
      exact fun select member => (selects select member).mapTexts keeps

theorem Select.WellFormed.mapTexts (keeps : change "EXTRACT" = "EXTRACT") :
    {select : Select} → select.WellFormed → (select.mapTexts change).WellFormed
  | ⟨⟨_, _, _⟩, fromTable, _, selectList, whereClause, groupBy, setOperations, order,
      withDescriptions, limit⟩,
    ⟨kind, unhinted, tables, someItems, items, conditions, groups, someOperation, operations,
      someKey, keys, named, limits⟩ => by
    simp only [Select.mapTexts, Base.mapTexts, optionalTableRefMapTexts_eq,
      optionalExprsMapTexts_eq, optionalExprMapTexts_eq, optionalGroupByMapTexts_eq,
      optionalSetOperationsMapTexts_eq, optionalOrdersMapTexts_eq, optionalWithsMapTexts_eq,
      optionalLimitMapTexts_eq]
    constructor <;> simp only [Option.forall_mem_map, List.forall_mem_map, Option.isSome_map]
    · exact kind
    · rw [Option.map_eq_none_iff]
      exact unhinted
    · exact fun table member => (tables table member).mapTexts keeps
    · exact someItems
    · exact fun list member item among => (items list member item among).mapTexts keeps
    · exact fun condition member => (conditions condition member).mapTexts keeps
    · exact fun groupBy member => (groups groupBy member).mapTexts keeps
    · exact map_ne_some_nil someOperation
    · exact fun list member operation among =>
        (operations list member operation among).mapTexts keeps
    · exact map_ne_some_nil someKey
    · exact fun list member key among => (keys list member key among).mapTexts keeps
    · exact fun list member table among => (named list member table among).mapTexts keeps
    · exact fun limit member => (limits limit member).mapTexts keeps

theorem TableRef.WellFormed.mapTexts (keeps : change "EXTRACT" = "EXTRACT") :
    {table : TableRef} → table.WellFormed → (table.mapTexts change).WellFormed
  | table, ⟨shaped, selects, single, lists, joins⟩ => by
    refine ⟨shaped.mapTexts, ?_, ?_, ?_, ?_⟩
    all_goals simp only [table.select_mapTexts, table.list_mapTexts, table.join_mapTexts,
      Option.forall_mem_map, List.forall_mem_map, TableRef.kind_mapTexts]
    · exact fun select member => (selects select member).mapTexts keeps
    · exact single
    · exact fun list member part among => (lists list member part among).mapTexts keeps
    · exact fun join member => (joins join member).mapTexts keeps

theorem Join.WellFormed.mapTexts (keeps : change "EXTRACT" = "EXTRACT") :
    {join : Join} → join.WellFormed → (join.mapTexts change).WellFormed
  | ⟨_, _, condition, _⟩,
    ⟨leftSingle, rightSingle, left, right, unconditional, conditions⟩ => by
    simp only [Join.mapTexts, optionalExprMapTexts_eq]
    constructor <;> simp only [TableRef.kind_mapTexts, Option.forall_mem_map,
      Option.map_eq_none_iff]
    · exact leftSingle
    · exact rightSingle
    · exact left.mapTexts keeps
    · exact right.mapTexts keeps
    · exact unconditional
    · exact fun condition member => (conditions condition member).mapTexts keeps

theorem GroupBy.WellFormed.mapTexts (keeps : change "EXTRACT" = "EXTRACT") :
    {groupBy : GroupBy} → groupBy.WellFormed → (groupBy.mapTexts change).WellFormed
  | ⟨_, _⟩, ⟨someKey, present, columns, havings⟩ => by
    simp only [GroupBy.mapTexts, optionalExprsMapTexts_eq, optionalExprMapTexts_eq]
    constructor <;> simp only [Option.isSome_map, Option.forall_mem_map, List.forall_mem_map]
    · exact map_ne_some_nil someKey
    · exact present
    · exact fun list member key among => (columns list member key among).mapTexts keeps
    · exact fun condition member => (havings condition member).mapTexts keeps

theorem Order.WellFormed.mapTexts (keeps : change "EXTRACT" = "EXTRACT") :
    {order : Order} → order.WellFormed → (order.mapTexts change).WellFormed
  | ⟨_, _⟩, ⟨expr⟩ => ⟨expr.mapTexts keeps⟩

theorem With.WellFormed.mapTexts (keeps : change "EXTRACT" = "EXTRACT") :
    {table : With} → table.WellFormed → (table.mapTexts change).WellFormed
  | ⟨_, _⟩, ⟨select⟩ => ⟨select.mapTexts keeps⟩

theorem Limit.WellFormed.mapTexts (keeps : change "EXTRACT" = "EXTRACT") :
    {limit : Limit} → limit.WellFormed → (limit.mapTexts change).WellFormed
  | ⟨_, _⟩, ⟨present, limits, offsets⟩ => by
    simp only [Limit.mapTexts, optionalExprMapTexts_eq]
    constructor <;> simp only [Option.isSome_map, Option.forall_mem_map]
    · exact present
    · exact fun count member => (limits count member).mapTexts keeps
    · exact fun count member => (offsets count member).mapTexts keeps

theorem SetOperation.WellFormed.mapTexts (keeps : change "EXTRACT" = "EXTRACT") :
    {operation : SetOperation} → operation.WellFormed → (operation.mapTexts change).WellFormed
  | ⟨_, _, _, _, _⟩, ⟨nestedSelect, someKey, keys, limits⟩ => by
    simp only [SetOperation.mapTexts, optionalOrdersMapTexts_eq, optionalLimitMapTexts_eq]
    constructor <;> simp only [Option.forall_mem_map, List.forall_mem_map]
    · exact nestedSelect.mapTexts keeps
    · exact map_ne_some_nil someKey
    · exact fun list member key among => (keys list member key among).mapTexts keeps
    · exact fun limit member => (limits limit member).mapTexts keeps

end

theorem Statement.base_mapTexts (statement : Statement) :
    (statement.mapTexts change).base = statement.base.mapTexts change := by
  cases statement with
  | select body =>
    cases body
    rfl
  | _ => rfl

theorem Statement.ofBase_mapTexts (base : Base) :
    (Statement.ofBase base).mapTexts change = .ofBase (base.mapTexts change) := by
  obtain ⟨kind, stringLength, hints⟩ := base
  cases kind <;> rfl

theorem Statement.bare_mapTexts (statement : Statement) :
    (statement.mapTexts change).bare = statement.bare.mapTexts change := by
  cases statement with
  | select body =>
    cases body
    rfl
  | _ => rfl

/-- A statement stays well formed if other texts are put into it. -/
theorem Statement.WellFormed.mapTexts {statement : Statement} (wellFormed : statement.WellFormed)
    (keeps : change "EXTRACT" = "EXTRACT") : (statement.mapTexts change).WellFormed := by
  obtain ⟨form, hints, body⟩ := wellFormed
  refine ⟨?_, ?_, ?_⟩
  · rw [bare_mapTexts, form, ofBase_mapTexts, base_mapTexts]
  · rw [base_mapTexts]
    generalize statement.base = base at hints
    cases base
    exact congrArg (optionalExprsMapTexts change) hints
  · cases statement with
    | select select =>
      rintro _ ⟨⟩
      exact (body select rfl).mapTexts keeps
    | _ => rintro _ ⟨⟩

end WellFormed

/-! ### Well-formed statements in an image -/

/-- Of a well-formed statement an image keeps all but the ends of the texts. -/
theorem Statement.WellFormed.normal_eq {statement : Statement}
    (wellFormed : statement.WellFormed) : statement.normal = statement.mapTexts cutAtZero := by
  have form := wellFormed.form
  cases statement with
  | select body =>
    have tagged : body.base.kind = .select := by
      cases wellFormed.body body rfl
      assumption
    exact if_pos tagged
  | insert base | update base | delete base | other base =>
    exact (ofBase_mapTexts base).symm.trans (congrArg (Statement.mapTexts cutAtZero) form.symm)

/-- A result of well-formed statements is read off its image as it was, save that its texts are
cut, and its statements stay well formed. -/
theorem ParseResult.WellFormed.read_image {result : ParseResult} (wellFormed : result.WellFormed)
    (heap : Heap) :
    (heap.store result).2.read (some (heap.store result).1) = .ok (result.mapTexts cutAtZero) ∧
      (result.mapTexts cutAtZero).WellFormed := by
  refine ⟨?_, ?_⟩
  · simp only [Heap.read, heap.load_store, readResult_content]
    cases result with
    | valid statements =>
      have kept : statements.map Statement.normal = statements.map (·.mapTexts cutAtZero) :=
        List.map_congr_left fun statement member => (wellFormed statement member).normal_eq
      rw [normal, kept, mapTexts]
    | invalid error => rfl
  · cases result with
    | valid statements =>
      intro statement member
      obtain ⟨before, among, rfl⟩ := List.mem_map.mp member
      exact (wellFormed before among).mapTexts (by decide)
    | invalid error =>
      rintro _ ⟨⟩

end SqlImage.Tree
