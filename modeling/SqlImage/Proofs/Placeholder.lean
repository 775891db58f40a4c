/-
This file counts the placeholders of a query and lists the parameters of a tree. A
placeholder may stand in any part of what was written, also in those that leave no
trace in a tree: the arguments and the hints of a table, the filter and the order
inside a call, the keys of LIMIT BY, the locks of a query and the options of a
star. So the placeholders are counted twice over, with these parts and without
them.
-/

import SqlImage.Sql.Syntax.Basic
import SqlImage.Tree.Basic

namespace SqlImage

namespace Sql

/-! ### Placeholders -/

/-- What a part that leaves no trace counts for. -/
def traceless (everywhere : Bool) (count : Nat) : Nat := if everywhere then count else 0

/-- What a value counts for. -/
def Literal.placeholders : Literal → Nat
  | .placeholder _ => 1
  | _ => 0

section Placeholders

variable (everywhere : Bool)

mutual

/-- The number of placeholders in a part of a phrase. -/
def Piece.placeholders : Piece → Nat
  | .text _ => 0
  | .expr expr => expr.placeholders
  | .query query => query.placeholders
  | .source source => source.placeholders
  | .argument ⟨_, value⟩ => value.placeholders
  | .item item => item.placeholders
  | .order ⟨expr, _, _⟩ => expr.placeholders

/-- The number of placeholders in a phrase. -/
def phrasePlaceholders : List Piece → Nat
  | [] => 0
  | first :: rest => first.placeholders + phrasePlaceholders rest

/-- The number of placeholders in an expression. -/
def Expr.placeholders : Expr → Nat
  | .column _ => 0
  | .star => 0
  | .qualifiedStar _ => 0
  | .literal value => value.placeholders
  | .nested inner => inner.placeholders
  | .unary _ operand => operand.placeholders
  | .binary _ left right => left.placeholders + right.placeholders
  | .isNull _ operand => operand.placeholders
  | .like _ _ operand pattern _ => operand.placeholders + pattern.placeholders
  | .between _ operand low high =>
    operand.placeholders + (low.placeholders + high.placeholders)
  | .inList _ operand list => operand.placeholders + exprsPlaceholders list
  | .inQuery _ operand query => operand.placeholders + query.placeholders
  | .hasRow _ query => query.placeholders
  | .subquery query => query.placeholders
  | .call call => call.placeholders
  | .case operand branches otherwise =>
    optionPlaceholders operand + (branchesPlaceholders branches + optionPlaceholders otherwise)
  | .extract _ operand => operand.placeholders
  | .interval value _ => value.placeholders
  | .array _ elements => exprsPlaceholders elements
  | .index operand subscripts => operand.placeholders + exprsPlaceholders subscripts
  | .phrase pieces => phrasePlaceholders pieces

/-- The number of placeholders in expressions. -/
def exprsPlaceholders : List Expr → Nat
  | [] => 0
  | first :: rest => first.placeholders + exprsPlaceholders rest

/-- The number of placeholders in an expression that may be absent. -/
def optionPlaceholders : Option Expr → Nat
  | none => 0
  | some expr => expr.placeholders

/-- The number of placeholders in the branches of a choice. -/
def branchesPlaceholders : List Branch → Nat
  | [] => 0
  | ⟨condition, result⟩ :: rest =>
    condition.placeholders + (result.placeholders + branchesPlaceholders rest)

/-- The number of placeholders in a call. -/
def Call.placeholders : Call → Nat
  | ⟨_, _, arguments, order, filter, _, window, _⟩ =>
    argumentsPlaceholders arguments + (phrasePlaceholders window +
      traceless everywhere (orderPlaceholders order + optionPlaceholders filter))

/-- The number of placeholders in arguments. -/
def argumentsPlaceholders : List Argument → Nat
  | [] => 0
  | ⟨_, value⟩ :: rest => value.placeholders + argumentsPlaceholders rest

/-- The number of placeholders in arguments that may be absent. -/
def optionArgumentsPlaceholders : Option (List Argument) → Nat
  | none => 0
  | some arguments => argumentsPlaceholders arguments

/-- The number of placeholders in what is given to a function. -/
def ArgumentValue.placeholders : ArgumentValue → Nat
  | .expr expr => expr.placeholders
  | .star => 0
  | .qualifiedStar _ => 0

/-- The number of placeholders in a sort. -/
def orderPlaceholders : List OrderItem → Nat
  | [] => 0
  | ⟨expr, _, _⟩ :: rest => expr.placeholders + orderPlaceholders rest

/-- The number of placeholders in a query. -/
def Query.placeholders : Query → Nat
  | ⟨withClause, body, order, limit, limitBy, offset, _, fetch, locks⟩ =>
    withPlaceholders withClause + (body.placeholders + (orderPlaceholders order +
      (optionPlaceholders limit + (optionPlaceholders offset + (phrasePlaceholders fetch +
        traceless everywhere (exprsPlaceholders limitBy + phrasePlaceholders locks))))))

/-- The number of placeholders in the named queries that may stand in front of a query. -/
def withPlaceholders : Option With → Nat
  | none => 0
  | some tables => tables.placeholders

/-- The number of placeholders in the named queries in front of a query. -/
def With.placeholders : With → Nat
  | ⟨_, tables⟩ => namedQueriesPlaceholders tables

/-- The number of placeholders in named queries. -/
def namedQueriesPlaceholders : List NamedQuery → Nat
  | [] => 0
  | ⟨_, query, _⟩ :: rest => query.placeholders + namedQueriesPlaceholders rest

/-- The number of placeholders in the body of a query. -/
def Body.placeholders : Body → Nat
  | .select select => select.placeholders
  | .query query => query.placeholders
  | .operation _ _ left right => left.placeholders + right.placeholders
  | .values pieces => phrasePlaceholders pieces
  | .phrase pieces => phrasePlaceholders pieces

/-- The number of placeholders in a select. -/
def Select.placeholders : Select → Nat
  | ⟨distinct, top, items, into, tables, lateralViews, selection, grouping, distribution, having,
      windows, qualify⟩ =>
    distinct.placeholders + (itemsPlaceholders items + (fromItemsPlaceholders tables +
      (optionPlaceholders selection + (grouping.placeholders + (optionPlaceholders having +
        (phrasePlaceholders top + phrasePlaceholders into + phrasePlaceholders lateralViews +
          phrasePlaceholders distribution + phrasePlaceholders windows +
          phrasePlaceholders qualify))))))

/-- The number of placeholders in the keys that tell rows apart. -/
def Distinct.placeholders : Distinct → Nat
  | .no => 0
  | .rows => 0
  | .on keys => exprsPlaceholders keys

/-- The number of placeholders in the items of a select list. -/
def itemsPlaceholders : List SelectItem → Nat
  | [] => 0
  | first :: rest => first.placeholders + itemsPlaceholders rest

/-- The number of placeholders in an item of a select list. -/
def SelectItem.placeholders : SelectItem → Nat
  | .expr expr _ => expr.placeholders
  | .star options => traceless everywhere (phrasePlaceholders options)
  | .qualifiedStar _ options => traceless everywhere (phrasePlaceholders options)

/-- The number of placeholders in a grouping. -/
def Grouping.placeholders : Grouping → Nat
  | .all => 0
  | .keys keys => exprsPlaceholders keys

/-- The number of placeholders in tables and what is joined to each. -/
def fromItemsPlaceholders : List FromItem → Nat
  | [] => 0
  | first :: rest => first.placeholders + fromItemsPlaceholders rest

/-- The number of placeholders in a table and what is joined to it. -/
def FromItem.placeholders : FromItem → Nat
  | ⟨factor, joins⟩ => factor.placeholders + joinsPlaceholders joins

/-- The number of placeholders in joined tables. -/
def joinsPlaceholders : List Join → Nat
  | [] => 0
  | ⟨operator, factor⟩ :: rest =>
    factor.placeholders + (operator.placeholders + joinsPlaceholders rest)

/-- The number of placeholders in the condition of a join. -/
def JoinOperator.placeholders : JoinOperator → Nat
  | .constrained _ (.on condition) => condition.placeholders
  | _ => 0

/-- The number of placeholders in anything that stands for a table. -/
def TableFactor.placeholders : TableFactor → Nat
  | .table _ _ arguments _ hints =>
    traceless everywhere (optionArgumentsPlaceholders arguments + exprsPlaceholders hints)
  | .derived _ query _ => query.placeholders
  | .nested inner _ => inner.placeholders
  | .phrase before _ after => phrasePlaceholders before + phrasePlaceholders after

end

end Placeholders

end Sql

namespace Tree

/-! ### Parameters -/

mutual

/-- The numbers of the parameters in the hints of a statement. -/
def Base.parameters : Base → List Int64
  | ⟨_, _, hints⟩ => optionalExprsParameters hints

/-- The numbers of the parameters in a select. -/
def Select.parameters : Select → List Int64
  | ⟨base, fromTable, _, selectList, whereClause, groupBy, setOperations, order,
      withDescriptions, limit⟩ =>
    base.parameters ++ optionalTableRefParameters fromTable ++
      optionalExprsParameters selectList ++ optionalExprParameters whereClause ++
      optionalGroupByParameters groupBy ++ optionalSetOperationsParameters setOperations ++
      optionalOrdersParameters order ++ optionalWithsParameters withDescriptions ++
      optionalLimitParameters limit

/-- The numbers of the parameters in a select that may be absent. -/
@[simp]
def optionalSelectParameters : Option Select → List Int64
  | none => []
  | some select => select.parameters

/-- The numbers of the parameters in an expression, its own first. -/
@[simp]
def Expr.parameters : Expr → List Int64
  | ⟨kind, expr, expr2, exprList, select, _, _, _, _, ival, _, _, _, _, _⟩ =>
    (if kind = .parameter then [ival] else []) ++ optionalExprParameters expr ++
      optionalExprParameters expr2 ++ optionalExprsParameters exprList ++
      optionalSelectParameters select

/-- The numbers of the parameters in an expression that may be absent. -/
@[simp]
def optionalExprParameters : Option Expr → List Int64
  | none => []
  | some expr => expr.parameters

/-- The numbers of the parameters in expressions. -/
@[simp]
def exprsParameters : List Expr → List Int64
  | [] => []
  | head :: tail => head.parameters ++ exprsParameters tail

/-- The numbers of the parameters in a list of expressions that may be absent. -/
@[simp]
def optionalExprsParameters : Option (List Expr) → List Int64
  | none => []
  | some exprs => exprsParameters exprs

/-- The numbers of the parameters in a table reference. -/
def TableRef.parameters : TableRef → List Int64
  | ⟨_, _, _, _, select, list, join⟩ =>
    optionalSelectParameters select ++ optionalTableRefsParameters list ++
      optionalJoinParameters join

/-- The numbers of the parameters in a table reference that may be absent. -/
@[simp]
def optionalTableRefParameters : Option TableRef → List Int64
  | none => []
  | some table => table.parameters

/-- The numbers of the parameters in table references. -/
@[simp]
def tableRefsParameters : List TableRef → List Int64
  | [] => []
  | head :: tail => head.parameters ++ tableRefsParameters tail

/-- The numbers of the parameters in a list of table references that may be absent. -/
@[simp]
def optionalTableRefsParameters : Option (List TableRef) → List Int64
  | none => []
  | some tables => tableRefsParameters tables

/-- The numbers of the parameters in a join. -/
def Join.parameters : Join → List Int64
  | ⟨left, right, condition, _⟩ =>
    left.parameters ++ right.parameters ++ optionalExprParameters condition

/-- The numbers of the parameters in a join that may be absent. -/
@[simp]
def optionalJoinParameters : Option Join → List Int64
  | none => []
  | some join => join.parameters

/-- The numbers of the parameters in a grouping. -/
def GroupBy.parameters : GroupBy → List Int64
  | ⟨columns, having⟩ => optionalExprsParameters columns ++ optionalExprParameters having

/-- The numbers of the parameters in a grouping that may be absent. -/
@[simp]
def optionalGroupByParameters : Option GroupBy → List Int64
  | none => []
  | some groupBy => groupBy.parameters

/-- The numbers of the parameters in sort keys. -/
@[simp]
def ordersParameters : List Order → List Int64
  | [] => []
  | ⟨_, expr⟩ :: tail => expr.parameters ++ ordersParameters tail

/-- The numbers of the parameters in a list of sort keys that may be absent. -/
@[simp]
def optionalOrdersParameters : Option (List Order) → List Int64
  | none => []
  | some orders => ordersParameters orders

/-- The numbers of the parameters in named subqueries. -/
@[simp]
def withsParameters : List With → List Int64
  | [] => []
  | ⟨_, select⟩ :: tail => select.parameters ++ withsParameters tail

/-- The numbers of the parameters in a list of named subqueries that may be absent. -/
@[simp]
def optionalWithsParameters : Option (List With) → List Int64
  | none => []
  | some withs => withsParameters withs

/-- The numbers of the parameters in a limit. -/
def Limit.parameters : Limit → List Int64
  | ⟨limit, offset⟩ => optionalExprParameters limit ++ optionalExprParameters offset

/-- The numbers of the parameters in a limit that may be absent. -/
@[simp]
def optionalLimitParameters : Option Limit → List Int64
  | none => []
  | some limit => limit.parameters

/-- The numbers of the parameters in a set operation. -/
def SetOperation.parameters : SetOperation → List Int64
  | ⟨_, _, nestedSelect, resultOrder, resultLimit⟩ =>
    nestedSelect.parameters ++ optionalOrdersParameters resultOrder ++
      optionalLimitParameters resultLimit

/-- The numbers of the parameters in set operations. -/
@[simp]
def setOperationsParameters : List SetOperation → List Int64
  | [] => []
  | head :: tail => head.parameters ++ setOperationsParameters tail

/-- The numbers of the parameters in a list of set operations that may be absent. -/
@[simp]
def optionalSetOperationsParameters : Option (List SetOperation) → List Int64
  | none => []
  | some operations => setOperationsParameters operations

end

end Tree

end SqlImage
