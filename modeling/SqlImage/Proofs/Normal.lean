/-
This file says which tree is read off an image that was just made. It is the tree
that the image was made from, save for what an image does not keep: a text ends at
its first zero character, and a statement is what its kind says, so a form that
contradicts the kind is lost, and so are the clauses of a select that is tagged as
something else. A select inside another node keeps all its clauses, whatever its
kind says.
-/

import SqlImage.Image.Read
import SqlImage.Proofs.Store

namespace SqlImage.Tree

open SqlImage.Image

/-! ### Changing the texts of a tree -/

section Texts

variable (change : String → String)

/-- The same alias with every text changed. -/
def Alias.mapTexts : Alias → Alias
  | ⟨name, columns⟩ => ⟨change name, columns.map (·.map change)⟩

mutual

/-- The same base with every text in its hints changed. -/
def Base.mapTexts : Base → Base
  | ⟨kind, stringLength, hints⟩ => ⟨kind, stringLength, optionalExprsMapTexts hints⟩

/-- The same select with every text changed. -/
def Select.mapTexts : Select → Select
  | ⟨base, fromTable, selectDistinct, selectList, whereClause, groupBy, setOperations, order,
      withDescriptions, limit⟩ =>
    ⟨base.mapTexts,
      optionalTableRefMapTexts fromTable,
      selectDistinct,
      optionalExprsMapTexts selectList,
      optionalExprMapTexts whereClause,
      optionalGroupByMapTexts groupBy,
      optionalSetOperationsMapTexts setOperations,
      optionalOrdersMapTexts order,
      optionalWithsMapTexts withDescriptions,
      optionalLimitMapTexts limit⟩

/-- The same select, if there is one, with every text changed. -/
def optionalSelectMapTexts : Option Select → Option Select
  | none => none
  | some select => some select.mapTexts

/-- The same expression with every text changed. -/
def Expr.mapTexts : Expr → Expr
  | ⟨kind, expr, expr2, exprList, select, name, table, label, fval, ival, ival2, datetimeField,
      isBoolLiteral, opType, distinct⟩ =>
    ⟨kind,
      optionalExprMapTexts expr,
      optionalExprMapTexts expr2,
      optionalExprsMapTexts exprList,
      optionalSelectMapTexts select,
      name.map change,
      table.map change,
      label.map change,
      fval, ival, ival2, datetimeField, isBoolLiteral, opType, distinct⟩

/-- The same expression, if there is one, with every text changed. -/
def optionalExprMapTexts : Option Expr → Option Expr
  | none => none
  | some expr => some expr.mapTexts

/-- The same expressions with every text changed. -/
def exprsMapTexts : List Expr → List Expr
  | [] => []
  | head :: tail => head.mapTexts :: exprsMapTexts tail

/-- The same list of expressions, if there is one, with every text changed. -/
def optionalExprsMapTexts : Option (List Expr) → Option (List Expr)
  | none => none
  | some exprs => some (exprsMapTexts exprs)

/-- The same table reference with every text changed. -/
def TableRef.mapTexts : TableRef → TableRef
  | ⟨kind, schema, name, label, select, list, join⟩ =>
    ⟨kind,
      schema.map change,
      name.map change,
      label.map (·.mapTexts change),
      optionalSelectMapTexts select,
      optionalTableRefsMapTexts list,
      optionalJoinMapTexts join⟩

/-- The same table reference, if there is one, with every text changed. -/
def optionalTableRefMapTexts : Option TableRef → Option TableRef
  | none => none
  | some table => some table.mapTexts

/-- The same table references with every text changed. -/
def tableRefsMapTexts : List TableRef → List TableRef
  | [] => []
  | head :: tail => head.mapTexts :: tableRefsMapTexts tail

/-- The same list of table references, if there is one, with every text changed. -/
def optionalTableRefsMapTexts : Option (List TableRef) → Option (List TableRef)
  | none => none
  | some tables => some (tableRefsMapTexts tables)

/-- The same join with every text changed. -/
def Join.mapTexts : Join → Join
  | ⟨left, right, condition, kind⟩ =>
    ⟨left.mapTexts, right.mapTexts, optionalExprMapTexts condition, kind⟩

/-- The same join, if there is one, with every text changed. -/
def optionalJoinMapTexts : Option Join → Option Join
  | none => none
  | some join => some join.mapTexts

/-- The same grouping with every text changed. -/
def GroupBy.mapTexts : GroupBy → GroupBy
  | ⟨columns, having⟩ => ⟨optionalExprsMapTexts columns, optionalExprMapTexts having⟩

/-- The same grouping, if there is one, with every text changed. -/
def optionalGroupByMapTexts : Option GroupBy → Option GroupBy
  | none => none
  | some groupBy => some groupBy.mapTexts

/-- The same sort key with every text changed. -/
def Order.mapTexts : Order → Order
  | ⟨kind, expr⟩ => ⟨kind, expr.mapTexts⟩

/-- The same sort keys with every text changed. -/
def ordersMapTexts : List Order → List Order
  | [] => []
  | head :: tail => head.mapTexts :: ordersMapTexts tail

/-- The same list of sort keys, if there is one, with every text changed. -/
def optionalOrdersMapTexts : Option (List Order) → Option (List Order)
  | none => none
  | some orders => some (ordersMapTexts orders)

/-- The same named subquery with every text changed. -/
def With.mapTexts : With → With
  | ⟨label, select⟩ => ⟨change label, select.mapTexts⟩

/-- The same named subqueries with every text changed. -/
def withsMapTexts : List With → List With
  | [] => []
  | head :: tail => head.mapTexts :: withsMapTexts tail

/-- The same list of named subqueries, if there is one, with every text changed. -/
def optionalWithsMapTexts : Option (List With) → Option (List With)
  | none => none
  | some withs => some (withsMapTexts withs)

/-- The same limit with every text changed. -/
def Limit.mapTexts : Limit → Limit
  | ⟨limit, offset⟩ => ⟨optionalExprMapTexts limit, optionalExprMapTexts offset⟩

/-- The same limit, if there is one, with every text changed. -/
def optionalLimitMapTexts : Option Limit → Option Limit
  | none => none
  | some limit => some limit.mapTexts

/-- The same set operation with every text changed. -/
def SetOperation.mapTexts : SetOperation → SetOperation
  | ⟨kind, isAll, nestedSelect, resultOrder, resultLimit⟩ =>
    ⟨kind, isAll, nestedSelect.mapTexts, optionalOrdersMapTexts resultOrder,
      optionalLimitMapTexts resultLimit⟩

/-- The same set operations with every text changed. -/
def setOperationsMapTexts : List SetOperation → List SetOperation
  | [] => []
  | head :: tail => head.mapTexts :: setOperationsMapTexts tail

/-- The same list of set operations, if there is one, with every text changed. -/
def optionalSetOperationsMapTexts : Option (List SetOperation) → Option (List SetOperation)
  | none => none
  | some operations => some (setOperationsMapTexts operations)

end

end Texts

/-! ### What an image keeps of a tree -/

/-- The same statement as an image keeps it: every text ends at its first zero character, and the
kind decides on the form. Only a select that is tagged as one keeps its clauses. -/
def Statement.normal : Statement → Statement
  | .select body =>
    if body.base.kind = .select then .select (body.mapTexts cutAtZero)
    else .ofBase (body.base.mapTexts cutAtZero)
  | bare => .ofBase (bare.base.mapTexts cutAtZero)

/-- The same result as an image keeps it. -/
def ParseResult.normal : ParseResult → ParseResult
  | .valid statements => .valid (statements.map Statement.normal)
  | .invalid error => .invalid { error with message := cutAtZero error.message }

end SqlImage.Tree

namespace SqlImage.Image

open SqlImage.Tree

/-! ### Reading single fields -/

@[simp] theorem readTag_tagContent {α : Type} [Tag α] [DecidableEq α] [Tag.Complete α] (tag : α) :
    readTag (tagContent tag) = .ok tag := by
  simp only [readTag, tagContent, Tag.ofOrdinal?_toNat_ofNat]

@[simp] theorem readText_textContent (text : String) :
    readText (textContent text) = .ok (some (cutAtZero text)) := rfl

@[simp] theorem readText_optionalTextContent (text : Option String) :
    readText (optionalTextContent text) = .ok (text.map cutAtZero) := by
  cases text <;> rfl

@[simp] theorem present_ok_some {α : Type} (value : α) : present (.ok (some value)) = .ok value :=
  rfl

theorem readTexts_map_textContent (texts : List String) :
    readTexts (texts.map textContent) = .ok (texts.map cutAtZero) := by
  induction texts with
  | nil => rfl
  | cons text rest inductionHypothesis =>
    simp only [List.map_cons, readTexts, readText_textContent, present_ok_some,
      inductionHypothesis]
    rfl

@[simp] theorem readTextList_optionalColumnsContent (columns : Option (List String)) :
    readTextList (optionalColumnsContent columns) = .ok (columns.map (·.map cutAtZero)) := by
  cases columns with
  | none => rfl
  | some columns =>
    simp only [optionalColumnsContent, readTextList, readTexts_map_textContent]
    rfl

@[simp] theorem readAlias_optionalAliasContent (label : Option Alias) :
    readAlias (optionalAliasContent label) = .ok (label.map (·.mapTexts cutAtZero)) := by
  cases label with
  | none => rfl
  | some label =>
    simp only [optionalAliasContent, Alias.content, readAlias, readText_textContent,
      present_ok_some, readTextList_optionalColumnsContent]
    rfl

/-! ### Reading nodes -/

mutual

/-- A base is read as it was, with its texts cut. -/
theorem readBase_contents : (base : Base) →
    ∃ kind stringLength hints, base.contents = [kind, stringLength, hints] ∧
      readBase kind stringLength (readExprList hints) = .ok (base.mapTexts cutAtZero)
  | ⟨kind, stringLength, hints⟩ => by
    refine ⟨tagContent kind, .size stringLength, optionalExprsContent hints, rfl, ?_⟩
    simp only [readBase, readTag_tagContent, readSize, readExprList_optional hints]
    rfl

/-- A select is read with all its clauses. -/
theorem readSelect_content :
    (select : Select) → readSelect select.content = .ok (some (select.mapTexts cutAtZero))
  | ⟨base, fromTable, selectDistinct, selectList, whereClause, groupBy, setOperations, order,
      withDescriptions, limit⟩ => by
    obtain ⟨kind, stringLength, hints, shown, baseRead⟩ := readBase_contents base
    simp only [Select.content, shown, List.cons_append, List.nil_append, readSelect, baseRead,
      readTable_optional fromTable, readFlag, readExprList_optional selectList,
      readExpr_optional whereClause, readGroupBy_optional groupBy,
      readSetOperationList_optional setOperations, readOrderList_optional order,
      readWithList_optional withDescriptions, readLimit_optional limit]
    rfl

theorem readSelect_optional : (select : Option Select) →
    readSelect (optionalSelectContent select) = .ok (optionalSelectMapTexts cutAtZero select)
  | none => rfl
  | some select => readSelect_content select

theorem readExpr_content :
    (expr : Expr) → readExpr expr.content = .ok (some (expr.mapTexts cutAtZero))
  | ⟨kind, expr, expr2, exprList, select, name, table, label, fval, ival, ival2, datetimeField,
      isBoolLiteral, opType, distinct⟩ => by
    simp only [Expr.content, readExpr, readTag_tagContent, readExpr_optional expr,
      readExpr_optional expr2, readExprList_optional exprList, readSelect_optional select,
      readText_optionalTextContent, readDouble, readInt, readFlag]
    rfl

theorem readExpr_optional : (expr : Option Expr) →
    readExpr (optionalExprContent expr) = .ok (optionalExprMapTexts cutAtZero expr)
  | none => rfl
  | some expr => readExpr_content expr

theorem readExprs_contents : (exprs : List Expr) →
    readExprs (exprsContents exprs) = .ok (exprsMapTexts cutAtZero exprs)
  | [] => rfl
  | head :: tail => by
    simp only [exprsContents, readExprs, readExpr_content head, present_ok_some,
      readExprs_contents tail]
    rfl

theorem readExprList_optional : (exprs : Option (List Expr)) →
    readExprList (optionalExprsContent exprs) = .ok (optionalExprsMapTexts cutAtZero exprs)
  | none => rfl
  | some exprs => by
    simp only [optionalExprsContent, readExprList, readExprs_contents exprs]
    rfl

theorem readTable_content :
    (table : TableRef) → readTable table.content = .ok (some (table.mapTexts cutAtZero))
  | ⟨kind, schema, name, label, select, list, join⟩ => by
    simp only [TableRef.content, readTable, readTag_tagContent, readText_optionalTextContent,
      readAlias_optionalAliasContent, readSelect_optional select, readTableList_optional list,
      readJoin_optional join]
    rfl

theorem readTable_optional : (table : Option TableRef) →
    readTable (optionalTableRefContent table) = .ok (optionalTableRefMapTexts cutAtZero table)
  | none => rfl
  | some table => readTable_content table

theorem readTables_contents : (tables : List TableRef) →
    readTables (tableRefsContents tables) = .ok (tableRefsMapTexts cutAtZero tables)
  | [] => rfl
  | head :: tail => by
    simp only [tableRefsContents, readTables, readTable_content head, present_ok_some,
      readTables_contents tail]
    rfl

theorem readTableList_optional : (tables : Option (List TableRef)) →
    readTableList (optionalTableRefsContent tables) =
      .ok (optionalTableRefsMapTexts cutAtZero tables)
  | none => rfl
  | some tables => by
    simp only [optionalTableRefsContent, readTableList, readTables_contents tables]
    rfl

theorem readJoin_content :
    (join : Join) → readJoin join.content = .ok (some (join.mapTexts cutAtZero))
  | ⟨left, right, condition, kind⟩ => by
    simp only [Join.content, readJoin, readTable_content left, readTable_content right,
      present_ok_some, readExpr_optional condition, readTag_tagContent]
    rfl

theorem readJoin_optional : (join : Option Join) →
    readJoin (optionalJoinContent join) = .ok (optionalJoinMapTexts cutAtZero join)
  | none => rfl
  | some join => readJoin_content join

theorem readGroupBy_content :
    (groupBy : GroupBy) → readGroupBy groupBy.content = .ok (some (groupBy.mapTexts cutAtZero))
  | ⟨columns, having⟩ => by
    simp only [GroupBy.content, readGroupBy, readExprList_optional columns,
      readExpr_optional having]
    rfl

theorem readGroupBy_optional : (groupBy : Option GroupBy) →
    readGroupBy (optionalGroupByContent groupBy) = .ok (optionalGroupByMapTexts cutAtZero groupBy)
  | none => rfl
  | some groupBy => readGroupBy_content groupBy

theorem readOrder_content :
    (order : Order) → readOrder order.content = .ok (some (order.mapTexts cutAtZero))
  | ⟨kind, expr⟩ => by
    simp only [Order.content, readOrder, readTag_tagContent, readExpr_content expr,
      present_ok_some]
    rfl

theorem readOrders_contents : (orders : List Order) →
    readOrders (ordersContents orders) = .ok (ordersMapTexts cutAtZero orders)
  | [] => rfl
  | head :: tail => by
    simp only [ordersContents, readOrders, readOrder_content head, present_ok_some,
      readOrders_contents tail]
    rfl

theorem readOrderList_optional : (orders : Option (List Order)) →
    readOrderList (optionalOrdersContent orders) = .ok (optionalOrdersMapTexts cutAtZero orders)
  | none => rfl
  | some orders => by
    simp only [optionalOrdersContent, readOrderList, readOrders_contents orders]
    rfl

theorem readWith_content :
    (withQuery : With) → readWith withQuery.content = .ok (some (withQuery.mapTexts cutAtZero))
  | ⟨label, select⟩ => by
    simp only [With.content, readWith, readText_textContent, present_ok_some,
      readSelect_content select]
    rfl

theorem readWiths_contents : (withs : List With) →
    readWiths (withsContents withs) = .ok (withsMapTexts cutAtZero withs)
  | [] => rfl
  | head :: tail => by
    simp only [withsContents, readWiths, readWith_content head, present_ok_some,
      readWiths_contents tail]
    rfl

theorem readWithList_optional : (withs : Option (List With)) →
    readWithList (optionalWithsContent withs) = .ok (optionalWithsMapTexts cutAtZero withs)
  | none => rfl
  | some withs => by
    simp only [optionalWithsContent, readWithList, readWiths_contents withs]
    rfl

theorem readLimit_content :
    (limit : Limit) → readLimit limit.content = .ok (some (limit.mapTexts cutAtZero))
  | ⟨limit, offset⟩ => by
    simp only [Limit.content, readLimit, readExpr_optional limit, readExpr_optional offset]
    rfl

theorem readLimit_optional : (limit : Option Limit) →
    readLimit (optionalLimitContent limit) = .ok (optionalLimitMapTexts cutAtZero limit)
  | none => rfl
  | some limit => readLimit_content limit

theorem readSetOperation_content : (operation : SetOperation) →
    readSetOperation operation.content = .ok (some (operation.mapTexts cutAtZero))
  | ⟨kind, isAll, nestedSelect, resultOrder, resultLimit⟩ => by
    simp only [SetOperation.content, readSetOperation, readTag_tagContent, readFlag,
      readSelect_content nestedSelect, present_ok_some, readOrderList_optional resultOrder,
      readLimit_optional resultLimit]
    rfl

theorem readSetOperations_contents : (operations : List SetOperation) →
    readSetOperations (setOperationsContents operations) =
      .ok (setOperationsMapTexts cutAtZero operations)
  | [] => rfl
  | head :: tail => by
    simp only [setOperationsContents, readSetOperations, readSetOperation_content head,
      present_ok_some, readSetOperations_contents tail]
    rfl

theorem readSetOperationList_optional : (operations : Option (List SetOperation)) →
    readSetOperationList (optionalSetOperationsContent operations) =
      .ok (optionalSetOperationsMapTexts cutAtZero operations)
  | none => rfl
  | some operations => by
    simp only [optionalSetOperationsContent, readSetOperationList,
      readSetOperations_contents operations]
    rfl

end

/-! ### Reading statements and results -/

/-- A statement laid out by its base is read by its kind. -/
theorem readStatement_base (base : Base) :
    readStatement (.record .statement base.contents) =
      .ok (some (.ofBase (base.mapTexts cutAtZero))) := by
  obtain ⟨kind, stringLength, hints, shown, baseRead⟩ := readBase_contents base
  simp only [shown, readStatement, baseRead]
  rfl

/-- A statement laid out in full is read as a select. -/
theorem readStatement_select (select : Select) :
    readStatement select.content = .ok (some (.select (select.mapTexts cutAtZero))) := by
  have selectRead := readSelect_content select
  obtain ⟨rest, shown⟩ := select.content_eq
  rw [shown] at selectRead ⊢
  simp only [readStatement, selectRead]
  rfl

/-- What an image keeps of a statement that is tagged as a select. -/
theorem Statement.normal_of_select {statement : Statement}
    (tagged : statement.base.kind = .select) :
    statement.normal = .select (statement.inFull.mapTexts cutAtZero) := by
  cases statement with
  | select body => exact if_pos tagged
  | insert base | update base | delete base | other base =>
    obtain ⟨kind, stringLength, hints⟩ := base
    obtain rfl : kind = .select := tagged
    rfl

/-- What an image keeps of any other statement. -/
theorem Statement.normal_of_ne_select {statement : Statement}
    (untagged : statement.base.kind ≠ .select) :
    statement.normal = .ofBase (statement.base.mapTexts cutAtZero) := by
  cases statement with
  | select body => exact if_neg untagged
  | _ => rfl

/-- A statement is read as an image keeps it. -/
theorem readStatement_content (statement : Statement) :
    readStatement statement.content = .ok (some statement.normal) := by
  by_cases tagged : statement.base.kind = .select
  · rw [Statement.content_of_select tagged, Statement.normal_of_select tagged,
      readStatement_select]
  · rw [Statement.content_of_ne_select tagged, Statement.normal_of_ne_select tagged,
      readStatement_base]

theorem readStatements_map_content (statements : List Statement) :
    readStatements (statements.map Statement.content) =
      .ok (statements.map Statement.normal) := by
  induction statements with
  | nil => rfl
  | cons head tail inductionHypothesis =>
    simp only [List.map_cons, readStatements, readStatement_content, present_ok_some,
      inductionHypothesis]
    rfl

/-- A result is read as an image keeps it. -/
theorem readResult_content (result : ParseResult) :
    readResult result.content = .ok result.normal := by
  cases result with
  | valid statements =>
    simp only [ParseResult.content, readResult, readFlag, readStatementList,
      readStatements_map_content]
    rfl
  | invalid error =>
    simp only [ParseResult.content, readResult, readFlag, readText_textContent, readPlace]
    rfl

/-- The tree read off an image that was just made is the tree it was made from as far as an image
keeps it. So it is that very tree exactly if an image keeps all of it. -/
theorem Heap.read_store (heap : Heap) (result : ParseResult) :
    (heap.store result).2.read (some (heap.store result).1) = .ok result.normal ∧
      ((heap.store result).2.read (some (heap.store result).1) = .ok result ↔
        result.normal = result) := by
  have read : (heap.store result).2.read (some (heap.store result).1) = .ok result.normal := by
    simp only [Heap.read, heap.load_store, readResult_content]
  refine ⟨read, ?_⟩
  rw [read, Except.ok.injEq]

end SqlImage.Image
