/-
This file counts the cells of an image on the tree that it is made from: one for
every node, one for every text that is there, the empty one too, and one for every
list that has an element. A statement is one node with its base, and of one whose
kind is not select only the base counts. The content of a tree takes exactly these
cells.
-/

import SqlImage.Proofs.Tag
import Mathlib.Algebra.BigOperators.Group.List.Basic
import Mathlib.Algebra.GroupWithZero.Nat

namespace SqlImage.Tree

/-! ### Counting -/

/-- A text, if it is there. -/
def optionalTextCells : Option String → Nat
  | none => 0
  | some _ => 1

/-- A list whose elements take the given numbers of cells. -/
def listCells (elements : List Nat) : Nat :=
  if elements = [] then 0 else 1 + elements.sum

/-- A list of texts, if it is there. -/
def optionalColumnsCells : Option (List String) → Nat
  | none => 0
  | some columns => listCells (columns.map fun _ => 1)

/-- An alias with its name and its column names. -/
def Alias.cells (label : Alias) : Nat := 1 + (1 + optionalColumnsCells label.columns)

/-- An alias, if it is there. -/
def optionalAliasCells : Option Alias → Nat
  | none => 0
  | some label => label.cells

mutual

/-- The hints of a statement. -/
def Base.cells : Base → Nat
  | ⟨_, _, hints⟩ => optionalExprsCells hints

/-- A select with all its clauses. -/
def Select.cells : Select → Nat
  | ⟨base, fromTable, _, selectList, whereClause, groupBy, setOperations, order,
      withDescriptions, limit⟩ =>
    1 + (base.cells + optionalTableRefCells fromTable + optionalExprsCells selectList +
      optionalExprCells whereClause + optionalGroupByCells groupBy +
      optionalSetOperationsCells setOperations + optionalOrdersCells order +
      optionalWithsCells withDescriptions + optionalLimitCells limit)

/-- A select, if it is there. -/
def optionalSelectCells : Option Select → Nat
  | none => 0
  | some select => select.cells

/-- An expression with all that it has. -/
def Expr.cells : Expr → Nat
  | ⟨_, expr, expr2, exprList, select, name, table, label, _, _, _, _, _, _, _⟩ =>
    1 + (optionalExprCells expr + optionalExprCells expr2 + optionalExprsCells exprList +
      optionalSelectCells select + optionalTextCells name + optionalTextCells table +
      optionalTextCells label)

/-- An expression, if it is there. -/
def optionalExprCells : Option Expr → Nat
  | none => 0
  | some expr => expr.cells

/-- Each of several expressions. -/
def exprsCells : List Expr → List Nat
  | [] => []
  | head :: tail => head.cells :: exprsCells tail

/-- A list of expressions, if it is there. -/
def optionalExprsCells : Option (List Expr) → Nat
  | none => 0
  | some exprs => listCells (exprsCells exprs)

/-- A table reference with all that it has. -/
def TableRef.cells : TableRef → Nat
  | ⟨_, schema, name, label, select, list, join⟩ =>
    1 + (optionalTextCells schema + optionalTextCells name + optionalAliasCells label +
      optionalSelectCells select + optionalTableRefsCells list + optionalJoinCells join)

/-- A table reference, if it is there. -/
def optionalTableRefCells : Option TableRef → Nat
  | none => 0
  | some table => table.cells

/-- Each of several table references. -/
def tableRefsCells : List TableRef → List Nat
  | [] => []
  | head :: tail => head.cells :: tableRefsCells tail

/-- A list of table references, if it is there. -/
def optionalTableRefsCells : Option (List TableRef) → Nat
  | none => 0
  | some tables => listCells (tableRefsCells tables)

/-- A join with both its sides. -/
def Join.cells : Join → Nat
  | ⟨left, right, condition, _⟩ => 1 + (left.cells + right.cells + optionalExprCells condition)

/-- A join, if it is there. -/
def optionalJoinCells : Option Join → Nat
  | none => 0
  | some join => join.cells

/-- A grouping. -/
def GroupBy.cells : GroupBy → Nat
  | ⟨columns, having⟩ => 1 + (optionalExprsCells columns + optionalExprCells having)

/-- A grouping, if it is there. -/
def optionalGroupByCells : Option GroupBy → Nat
  | none => 0
  | some groupBy => groupBy.cells

/-- A sort key. -/
def Order.cells : Order → Nat
  | ⟨_, expr⟩ => 1 + expr.cells

/-- Each of several sort keys. -/
def ordersCells : List Order → List Nat
  | [] => []
  | head :: tail => head.cells :: ordersCells tail

/-- A list of sort keys, if it is there. -/
def optionalOrdersCells : Option (List Order) → Nat
  | none => 0
  | some orders => listCells (ordersCells orders)

/-- A named subquery with its name. -/
def With.cells : With → Nat
  | ⟨_, select⟩ => 1 + (1 + select.cells)

/-- Each of several named subqueries. -/
def withsCells : List With → List Nat
  | [] => []
  | head :: tail => head.cells :: withsCells tail

/-- A list of named subqueries, if it is there. -/
def optionalWithsCells : Option (List With) → Nat
  | none => 0
  | some withs => listCells (withsCells withs)

/-- A limit. -/
def Limit.cells : Limit → Nat
  | ⟨limit, offset⟩ => 1 + (optionalExprCells limit + optionalExprCells offset)

/-- A limit, if it is there. -/
def optionalLimitCells : Option Limit → Nat
  | none => 0
  | some limit => limit.cells

/-- A set operation. -/
def SetOperation.cells : SetOperation → Nat
  | ⟨_, _, nestedSelect, resultOrder, resultLimit⟩ =>
    1 + (nestedSelect.cells + optionalOrdersCells resultOrder + optionalLimitCells resultLimit)

/-- Each of several set operations. -/
def setOperationsCells : List SetOperation → List Nat
  | [] => []
  | head :: tail => head.cells :: setOperationsCells tail

/-- A list of set operations, if it is there. -/
def optionalSetOperationsCells : Option (List SetOperation) → Nat
  | none => 0
  | some operations => listCells (setOperationsCells operations)

end

/-- A statement. Only a select that is of the kind of selects has more than its base. -/
def Statement.cells (statement : Statement) : Nat :=
  match statement.base.kind, statement with
  | .select, .select body => body.cells
  | _, statement => 1 + statement.base.cells

/-- A result: its statements, or its message. -/
def ParseResult.cells : ParseResult → Nat
  | .valid statements => 1 + listCells (statements.map Statement.cells)
  | .invalid _ => 1 + 1

end SqlImage.Tree

namespace SqlImage.Image

/-! ### The cells of contents -/

theorem contentsCells_eq_sum (contents : List Content) :
    contentsCells contents = (contents.map Content.cells).sum := by
  induction contents with
  | nil => rfl
  | cons head tail inductionHypothesis =>
    rw [contentsCells, inductionHypothesis, List.map_cons, List.sum_cons]

/-- A list takes a cell of its own if it has an element. -/
theorem Content.cells_list (elements : List Content) :
    (Content.list elements).cells = Tree.listCells (elements.map Content.cells) := by
  cases elements with
  | nil => rfl
  | cons head tail =>
    rw [Content.cells, contentsCells_eq_sum, Tree.listCells, if_neg (by simp), List.map_cons,
      List.sum_cons, Nat.add_assoc]

theorem contentsCells_append (first second : List Content) :
    contentsCells (first ++ second) = contentsCells first + contentsCells second := by
  rw [contentsCells_eq_sum, List.map_append, List.sum_append, ← contentsCells_eq_sum,
    ← contentsCells_eq_sum]

end SqlImage.Image

namespace SqlImage.Tree

open SqlImage.Image

theorem optionalTextContent_cells (text : Option String) :
    (optionalTextContent text).cells = optionalTextCells text := by
  cases text <;> rfl

theorem optionalColumnsContent_cells (columns : Option (List String)) :
    (optionalColumnsContent columns).cells = optionalColumnsCells columns := by
  cases columns with
  | none => rfl
  | some columns =>
    rw [optionalColumnsContent, Content.cells_list, List.map_map, optionalColumnsCells]
    rfl

theorem optionalAliasContent_cells (label : Option Alias) :
    (optionalAliasContent label).cells = optionalAliasCells label := by
  cases label with
  | none => rfl
  | some label =>
    rw [optionalAliasContent, Alias.content, Content.cells, contentsCells, contentsCells,
      optionalColumnsContent_cells, optionalAliasCells, Alias.cells]
    rfl

mutual

theorem Base.contents_cells : (base : Base) → contentsCells base.contents = base.cells
  | ⟨_, _, hints⟩ => by
    rw [Base.contents, contentsCells, contentsCells, contentsCells,
      optionalExprsContent_cells hints, Base.cells]
    simp only [contentsCells, tagContent, Content.cells, Nat.zero_add, Nat.add_zero]

theorem Select.content_cells : (select : Select) → select.content.cells = select.cells
  | ⟨base, fromTable, _, selectList, whereClause, groupBy, setOperations, order,
      withDescriptions, limit⟩ => by
    rw [Select.content, Content.cells, contentsCells_append, base.contents_cells, Select.cells]
    simp only [contentsCells, optionalTableRefContent_cells fromTable,
      optionalExprsContent_cells selectList, optionalExprContent_cells whereClause,
      optionalGroupByContent_cells groupBy, optionalSetOperationsContent_cells setOperations,
      optionalOrdersContent_cells order, optionalWithsContent_cells withDescriptions,
      optionalLimitContent_cells limit, Content.cells]
    omega

theorem optionalSelectContent_cells : (select : Option Select) →
    (optionalSelectContent select).cells = optionalSelectCells select
  | none => rfl
  | some select => select.content_cells

theorem Expr.content_cells : (expr : Expr) → expr.content.cells = expr.cells
  | ⟨_, expr, expr2, exprList, select, _, _, _, _, _, _, _, _, _, _⟩ => by
    rw [Expr.content, Content.cells, Expr.cells]
    simp only [contentsCells, optionalExprContent_cells expr, optionalExprContent_cells expr2,
      optionalExprsContent_cells exprList, optionalSelectContent_cells select,
      optionalTextContent_cells, Content.cells, tagContent]
    omega

theorem optionalExprContent_cells : (expr : Option Expr) →
    (optionalExprContent expr).cells = optionalExprCells expr
  | none => rfl
  | some expr => expr.content_cells

theorem exprsContents_cells : (exprs : List Expr) →
    (exprsContents exprs).map Content.cells = exprsCells exprs
  | [] => rfl
  | head :: tail => congrArg₂ List.cons head.content_cells (exprsContents_cells tail)

theorem optionalExprsContent_cells : (exprs : Option (List Expr)) →
    (optionalExprsContent exprs).cells = optionalExprsCells exprs
  | none => rfl
  | some exprs => (Content.cells_list _).trans (congrArg listCells (exprsContents_cells exprs))

theorem TableRef.content_cells : (table : TableRef) → table.content.cells = table.cells
  | ⟨_, _, _, _, select, list, join⟩ => by
    rw [TableRef.content, Content.cells, TableRef.cells]
    simp only [contentsCells, optionalTextContent_cells, optionalAliasContent_cells,
      optionalSelectContent_cells select, optionalTableRefsContent_cells list,
      optionalJoinContent_cells join, Content.cells, tagContent]
    omega

theorem optionalTableRefContent_cells : (table : Option TableRef) →
    (optionalTableRefContent table).cells = optionalTableRefCells table
  | none => rfl
  | some table => table.content_cells

theorem tableRefsContents_cells : (tables : List TableRef) →
    (tableRefsContents tables).map Content.cells = tableRefsCells tables
  | [] => rfl
  | head :: tail => congrArg₂ List.cons head.content_cells (tableRefsContents_cells tail)

theorem optionalTableRefsContent_cells : (tables : Option (List TableRef)) →
    (optionalTableRefsContent tables).cells = optionalTableRefsCells tables
  | none => rfl
  | some tables =>
    (Content.cells_list _).trans (congrArg listCells (tableRefsContents_cells tables))

theorem Join.content_cells : (join : Join) → join.content.cells = join.cells
  | ⟨left, right, condition, _⟩ => by
    rw [Join.content, Content.cells, Join.cells]
    simp only [contentsCells, left.content_cells, right.content_cells,
      optionalExprContent_cells condition, Content.cells, tagContent]
    omega

theorem optionalJoinContent_cells : (join : Option Join) →
    (optionalJoinContent join).cells = optionalJoinCells join
  | none => rfl
  | some join => join.content_cells

theorem GroupBy.content_cells : (groupBy : GroupBy) → groupBy.content.cells = groupBy.cells
  | ⟨columns, having⟩ => by
    rw [GroupBy.content, Content.cells, GroupBy.cells]
    simp only [contentsCells, optionalExprsContent_cells columns, optionalExprContent_cells having]
    omega

theorem optionalGroupByContent_cells : (groupBy : Option GroupBy) →
    (optionalGroupByContent groupBy).cells = optionalGroupByCells groupBy
  | none => rfl
  | some groupBy => groupBy.content_cells

theorem Order.content_cells : (order : Order) → order.content.cells = order.cells
  | ⟨_, expr⟩ => by
    rw [Order.content, Content.cells, Order.cells]
    simp only [contentsCells, expr.content_cells, Content.cells, tagContent]
    omega

theorem ordersContents_cells : (orders : List Order) →
    (ordersContents orders).map Content.cells = ordersCells orders
  | [] => rfl
  | head :: tail => congrArg₂ List.cons head.content_cells (ordersContents_cells tail)

theorem optionalOrdersContent_cells : (orders : Option (List Order)) →
    (optionalOrdersContent orders).cells = optionalOrdersCells orders
  | none => rfl
  | some orders => (Content.cells_list _).trans (congrArg listCells (ordersContents_cells orders))

theorem With.content_cells : (withQuery : With) → withQuery.content.cells = withQuery.cells
  | ⟨_, select⟩ => by
    rw [With.content, Content.cells, With.cells]
    simp only [contentsCells, select.content_cells, Content.cells, textContent]
    omega

theorem withsContents_cells : (withs : List With) →
    (withsContents withs).map Content.cells = withsCells withs
  | [] => rfl
  | head :: tail => congrArg₂ List.cons head.content_cells (withsContents_cells tail)

theorem optionalWithsContent_cells : (withs : Option (List With)) →
    (optionalWithsContent withs).cells = optionalWithsCells withs
  | none => rfl
  | some withs => (Content.cells_list _).trans (congrArg listCells (withsContents_cells withs))

theorem Limit.content_cells : (limit : Limit) → limit.content.cells = limit.cells
  | ⟨limit, offset⟩ => by
    rw [Limit.content, Content.cells, Limit.cells]
    simp only [contentsCells, optionalExprContent_cells limit, optionalExprContent_cells offset]
    omega

theorem optionalLimitContent_cells : (limit : Option Limit) →
    (optionalLimitContent limit).cells = optionalLimitCells limit
  | none => rfl
  | some limit => limit.content_cells

theorem SetOperation.content_cells : (operation : SetOperation) →
    operation.content.cells = operation.cells
  | ⟨_, _, nestedSelect, resultOrder, resultLimit⟩ => by
    rw [SetOperation.content, Content.cells, SetOperation.cells]
    simp only [contentsCells, nestedSelect.content_cells, optionalOrdersContent_cells resultOrder,
      optionalLimitContent_cells resultLimit, Content.cells, tagContent]
    omega

theorem setOperationsContents_cells : (operations : List SetOperation) →
    (setOperationsContents operations).map Content.cells = setOperationsCells operations
  | [] => rfl
  | head :: tail => congrArg₂ List.cons head.content_cells (setOperationsContents_cells tail)

theorem optionalSetOperationsContent_cells : (operations : Option (List SetOperation)) →
    (optionalSetOperationsContent operations).cells = optionalSetOperationsCells operations
  | none => rfl
  | some operations =>
    (Content.cells_list _).trans (congrArg listCells (setOperationsContents_cells operations))

end

theorem Statement.cells_of_select {statement : Statement}
    (tagged : statement.base.kind = .select) : statement.cells = statement.inFull.cells := by
  unfold Statement.cells
  rw [tagged]
  cases statement <;> rfl

theorem Statement.cells_of_ne_select {statement : Statement}
    (untagged : statement.base.kind ≠ .select) : statement.cells = 1 + statement.base.cells := by
  unfold Statement.cells
  split
  · rename_i body tagged
    exact (untagged tagged).elim
  · rfl

theorem Statement.content_cells (statement : Statement) :
    statement.content.cells = statement.cells := by
  by_cases tagged : statement.base.kind = .select
  · rw [Statement.content_of_select tagged, Statement.cells_of_select tagged,
      Select.content_cells]
  · rw [Statement.content_of_ne_select tagged, Statement.cells_of_ne_select tagged, Content.cells,
      Base.contents_cells]

/-- The content of a result takes as many cells as the result. -/
theorem ParseResult.content_cells (result : ParseResult) :
    result.content.cells = result.cells := by
  cases result with
  | valid statements =>
    have each : (statements.map Statement.content).map Content.cells =
        statements.map Statement.cells := by
      rw [List.map_map]
      exact List.map_congr_left fun statement _ => statement.content_cells
    rw [ParseResult.content, Content.cells, ParseResult.cells]
    simp only [contentsCells, Content.cells_list, each, Content.cells, Nat.zero_add, Nat.add_zero]
  | invalid error => rfl

end SqlImage.Tree
