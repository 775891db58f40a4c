/-
This file gives values to the parameters of a query, once as it is written and once
in its tree. A tree names its parameters by their numbers, so each is looked up. A
query has placeholders without a name or a number; they are counted in the order in
which they are reached: named queries first, then the body, the keys of the sort,
the limit and last the offset. What no tree can hold is left alone.
-/

import SqlImage.Sql.Syntax.Basic
import SqlImage.Tree.Basic

namespace SqlImage

section Values

variable (values : Int64 → String)

namespace Sql

/-! ### Queries -/

/-- A value in place of a placeholder, which is counted. -/
def Literal.supply : Literal → StateM Nat Literal
  | .placeholder _ => do
    let index ← get
    set (index + 1)
    return .string .plain (values (Int64.ofNat index))
  | other => return other

mutual

/-- The same expression with values in place of its placeholders. -/
def Expr.supply : Expr → StateM Nat Expr
  | .column path => return .column path
  | .star => return .star
  | .qualifiedStar name => return .qualifiedStar name
  | .literal value => return .literal (← value.supply values)
  | .nested inner => return .nested (← inner.supply)
  | .unary operator operand => return .unary operator (← operand.supply)
  | .binary operator left right => return .binary operator (← left.supply) (← right.supply)
  | .isNull negated operand => return .isNull negated (← operand.supply)
  | .like caseless negated operand pattern escape =>
    return .like caseless negated (← operand.supply) (← pattern.supply) escape
  | .between negated operand low high =>
    return .between negated (← operand.supply) (← low.supply) (← high.supply)
  | .inList negated operand list =>
    return .inList negated (← operand.supply) (← supplyExprs list)
  | .inQuery negated operand query =>
    return .inQuery negated (← operand.supply) (← query.supply)
  | .hasRow negated query => return .hasRow negated (← query.supply)
  | .subquery query => return .subquery (← query.supply)
  | .call call => return .call (← call.supply)
  | .case operand branches otherwise =>
    return .case (← supplyOption operand) (← supplyBranches branches) (← supplyOption otherwise)
  | .extract field operand => return .extract field (← operand.supply)
  | .interval value unit => return .interval (← value.supply) unit
  | .array named elements => return .array named (← supplyExprs elements)
  | .index operand subscripts => return .index (← operand.supply) subscripts
  | .phrase pieces => return .phrase pieces

/-- The same expressions with values in place of their placeholders. -/
def supplyExprs : List Expr → StateM Nat (List Expr)
  | [] => return []
  | first :: rest => return (← first.supply) :: (← supplyExprs rest)

/-- The same expression, if there is one, with values in place of its placeholders. -/
def supplyOption : Option Expr → StateM Nat (Option Expr)
  | none => return none
  | some expr => return some (← expr.supply)

/-- The same branches of a choice with values in place of their placeholders. -/
def supplyBranches : List Branch → StateM Nat (List Branch)
  | [] => return []
  | ⟨condition, result⟩ :: rest =>
    return ⟨← condition.supply, ← result.supply⟩ :: (← supplyBranches rest)

/-- The same call with values in place of the placeholders in its arguments. -/
def Call.supply : Call → StateM Nat Call
  | ⟨name, distinct, arguments, order, filter, nullTreatment, window, bare⟩ =>
    return ⟨name, distinct, ← supplyArguments arguments, order, filter, nullTreatment, window, bare⟩

/-- The same arguments with values in place of their placeholders. -/
def supplyArguments : List Argument → StateM Nat (List Argument)
  | [] => return []
  | ⟨name, value⟩ :: rest => return ⟨name, ← value.supply⟩ :: (← supplyArguments rest)

/-- The same argument with values in place of its placeholders. -/
def ArgumentValue.supply : ArgumentValue → StateM Nat ArgumentValue
  | .expr expr => return .expr (← expr.supply)
  | .star => return .star
  | .qualifiedStar name => return .qualifiedStar name

/-- The same keys of a sort with values in place of their placeholders. -/
def supplyOrder : List OrderItem → StateM Nat (List OrderItem)
  | [] => return []
  | ⟨expr, ascending, nullsFirst⟩ :: rest =>
    return ⟨← expr.supply, ascending, nullsFirst⟩ :: (← supplyOrder rest)

/-- The same query with values in place of its placeholders. The limit comes before the offset,
whichever was written first. -/
def Query.supply : Query → StateM Nat Query
  | ⟨withClause, body, order, limit, limitBy, offset, offsetRows, fetch, locks⟩ => do
    let withClause ← supplyWith withClause
    let body ← body.supply
    let order ← supplyOrder order
    let limit ← supplyOption limit
    let offset ← supplyOption offset
    return ⟨withClause, body, order, limit, limitBy, offset, offsetRows, fetch, locks⟩

/-- The same named queries, if there are any, with values in place of their placeholders. -/
def supplyWith : Option With → StateM Nat (Option With)
  | none => return none
  | some tables => return some (← tables.supply)

/-- The same named queries in front of a query with values in place of their placeholders. -/
def With.supply : With → StateM Nat With
  | ⟨recursive, tables⟩ => return ⟨recursive, ← supplyNamedQueries tables⟩

/-- The same named queries with values in place of their placeholders. -/
def supplyNamedQueries : List NamedQuery → StateM Nat (List NamedQuery)
  | [] => return []
  | ⟨label, query, source⟩ :: rest =>
    return ⟨label, ← query.supply, source⟩ :: (← supplyNamedQueries rest)

/-- The same body with values in place of its placeholders. -/
def Body.supply : Body → StateM Nat Body
  | .select select => return .select (← select.supply)
  | .query query => return .query (← query.supply)
  | .operation kind quantifier left right =>
    return .operation kind quantifier (← left.supply) (← right.supply)
  | .values pieces => return .values pieces
  | .phrase pieces => return .phrase pieces

/-- The same select with values in place of its placeholders. -/
def Select.supply : Select → StateM Nat Select
  | ⟨distinct, top, items, into, tables, lateralViews, selection, grouping, distribution, having,
      windows, qualify⟩ => do
    let items ← supplyItems items
    let tables ← supplyTables tables
    let selection ← supplyOption selection
    let grouping ← grouping.supply
    let having ← supplyOption having
    return ⟨distinct, top, items, into, tables, lateralViews, selection, grouping, distribution,
      having, windows, qualify⟩

/-- The same items of a select list with values in place of their placeholders. -/
def supplyItems : List SelectItem → StateM Nat (List SelectItem)
  | [] => return []
  | first :: rest => return (← first.supply) :: (← supplyItems rest)

/-- The same item of a select list with values in place of its placeholders. -/
def SelectItem.supply : SelectItem → StateM Nat SelectItem
  | .expr expr label => return .expr (← expr.supply) label
  | .star options => return .star options
  | .qualifiedStar name options => return .qualifiedStar name options

/-- The same grouping with values in place of its placeholders. -/
def Grouping.supply : Grouping → StateM Nat Grouping
  | .all => return .all
  | .keys [] => return .keys []
  | .keys (first :: rest) => return .keys ((← first.supply) :: (← supplyExprs rest))

/-- The same tables that a select reads with values in place of their placeholders. -/
def supplyTables : List FromItem → StateM Nat (List FromItem)
  | [] => return []
  | [item] => return [← item.supply]
  | first :: second :: rest =>
    return (← first.supply) :: (← second.supply) :: (← supplyFromItems rest)

/-- The same tables, and what is joined to each, with values in place of their placeholders. -/
def supplyFromItems : List FromItem → StateM Nat (List FromItem)
  | [] => return []
  | first :: rest => return (← first.supply) :: (← supplyFromItems rest)

/-- The same table, and what is joined to it, with values in place of its placeholders. -/
def FromItem.supply : FromItem → StateM Nat FromItem
  | ⟨factor, joins⟩ => return ⟨← factor.supply, ← supplyJoins joins⟩

/-- The same joined tables with values in place of their placeholders. A table is written before the
condition of its join. -/
def supplyJoins : List Join → StateM Nat (List Join)
  | [] => return []
  | ⟨operator, factor⟩ :: rest => do
    let factor ← factor.supply
    let operator ← operator.supply
    return ⟨operator, factor⟩ :: (← supplyJoins rest)

/-- The same join with values in place of the placeholders in its condition. -/
def JoinOperator.supply : JoinOperator → StateM Nat JoinOperator
  | .constrained side (.on condition) => return .constrained side (.on (← condition.supply))
  | other => return other

/-- The same table with values in place of its placeholders. -/
def TableFactor.supply : TableFactor → StateM Nat TableFactor
  | .table name partitions arguments label hints =>
    return .table name partitions arguments label hints
  | .derived lateral query label => return .derived lateral (← query.supply) label
  | .nested inner label => return .nested (← inner.supply) label
  | .phrase before label after => return .phrase before label after

end

end Sql

namespace Tree

/-! ### Trees -/

mutual

/-- The same base with values in place of the parameters in its hints. -/
def Base.supplied : Base → Base
  | ⟨kind, stringLength, hints⟩ => ⟨kind, stringLength, optionalExprsSupplied hints⟩

/-- The same select with values in place of its parameters. -/
def Select.supplied : Select → Select
  | ⟨base, fromTable, selectDistinct, selectList, whereClause, groupBy, setOperations, order,
      withDescriptions, limit⟩ =>
    ⟨base.supplied,
      optionalTableRefSupplied fromTable,
      selectDistinct,
      optionalExprsSupplied selectList,
      optionalExprSupplied whereClause,
      optionalGroupBySupplied groupBy,
      optionalSetOperationsSupplied setOperations,
      optionalOrdersSupplied order,
      optionalWithsSupplied withDescriptions,
      optionalLimitSupplied limit⟩

/-- The same select, if there is one, with values in place of its parameters. -/
def optionalSelectSupplied : Option Select → Option Select
  | none => none
  | some select => some select.supplied

/-- The same expression with values in place of its parameters. A value has the name that its
parameter had. -/
def Expr.supplied : Expr → Expr
  | ⟨.parameter, _, _, _, _, _, _, label, _, ival, _, _, _, _, _⟩ =>
    { Expr.literalString (values ival) with label }
  | ⟨kind, expr, expr2, exprList, select, name, table, label, fval, ival, ival2, datetimeField,
      isBoolLiteral, opType, distinct⟩ =>
    ⟨kind,
      optionalExprSupplied expr,
      optionalExprSupplied expr2,
      optionalExprsSupplied exprList,
      optionalSelectSupplied select,
      name, table, label, fval, ival, ival2, datetimeField, isBoolLiteral, opType, distinct⟩

/-- The same expression, if there is one, with values in place of its parameters. -/
def optionalExprSupplied : Option Expr → Option Expr
  | none => none
  | some expr => some expr.supplied

/-- The same expressions with values in place of their parameters. -/
def exprsSupplied : List Expr → List Expr
  | [] => []
  | head :: tail => head.supplied :: exprsSupplied tail

/-- The same list of expressions, if there is one, with values in place of its parameters. -/
def optionalExprsSupplied : Option (List Expr) → Option (List Expr)
  | none => none
  | some exprs => some (exprsSupplied exprs)

/-- The same table reference with values in place of its parameters. -/
def TableRef.supplied : TableRef → TableRef
  | ⟨kind, schema, name, label, select, list, join⟩ =>
    ⟨kind, schema, name, label,
      optionalSelectSupplied select,
      optionalTableRefsSupplied list,
      optionalJoinSupplied join⟩

/-- The same table reference, if there is one, with values in place of its parameters. -/
def optionalTableRefSupplied : Option TableRef → Option TableRef
  | none => none
  | some table => some table.supplied

/-- The same table references with values in place of their parameters. -/
def tableRefsSupplied : List TableRef → List TableRef
  | [] => []
  | head :: tail => head.supplied :: tableRefsSupplied tail

/-- The same list of table references, if there is one, with values in place of its parameters. -/
def optionalTableRefsSupplied : Option (List TableRef) → Option (List TableRef)
  | none => none
  | some tables => some (tableRefsSupplied tables)

/-- The same join with values in place of its parameters. -/
def Join.supplied : Join → Join
  | ⟨left, right, condition, kind⟩ =>
    ⟨left.supplied, right.supplied, optionalExprSupplied condition, kind⟩

/-- The same join, if there is one, with values in place of its parameters. -/
def optionalJoinSupplied : Option Join → Option Join
  | none => none
  | some join => some join.supplied

/-- The same grouping with values in place of its parameters. -/
def GroupBy.supplied : GroupBy → GroupBy
  | ⟨columns, having⟩ => ⟨optionalExprsSupplied columns, optionalExprSupplied having⟩

/-- The same grouping, if there is one, with values in place of its parameters. -/
def optionalGroupBySupplied : Option GroupBy → Option GroupBy
  | none => none
  | some groupBy => some groupBy.supplied

/-- The same sort key with values in place of its parameters. -/
def Order.supplied : Order → Order
  | ⟨kind, expr⟩ => ⟨kind, expr.supplied⟩

/-- The same sort keys with values in place of their parameters. -/
def ordersSupplied : List Order → List Order
  | [] => []
  | head :: tail => head.supplied :: ordersSupplied tail

/-- The same list of sort keys, if there is one, with values in place of its parameters. -/
def optionalOrdersSupplied : Option (List Order) → Option (List Order)
  | none => none
  | some orders => some (ordersSupplied orders)

/-- The same named subquery with values in place of its parameters. -/
def With.supplied : With → With
  | ⟨label, select⟩ => ⟨label, select.supplied⟩

/-- The same named subqueries with values in place of their parameters. -/
def withsSupplied : List With → List With
  | [] => []
  | head :: tail => head.supplied :: withsSupplied tail

/-- The same list of named subqueries, if there is one, with values in place of its parameters. -/
def optionalWithsSupplied : Option (List With) → Option (List With)
  | none => none
  | some withs => some (withsSupplied withs)

/-- The same limit with values in place of its parameters. -/
def Limit.supplied : Limit → Limit
  | ⟨limit, offset⟩ => ⟨optionalExprSupplied limit, optionalExprSupplied offset⟩

/-- The same limit, if there is one, with values in place of its parameters. -/
def optionalLimitSupplied : Option Limit → Option Limit
  | none => none
  | some limit => some limit.supplied

/-- The same set operation with values in place of its parameters. -/
def SetOperation.supplied : SetOperation → SetOperation
  | ⟨kind, isAll, nestedSelect, resultOrder, resultLimit⟩ =>
    ⟨kind, isAll, nestedSelect.supplied, optionalOrdersSupplied resultOrder,
      optionalLimitSupplied resultLimit⟩

/-- The same set operations with values in place of their parameters. -/
def setOperationsSupplied : List SetOperation → List SetOperation
  | [] => []
  | head :: tail => head.supplied :: setOperationsSupplied tail

/-- The same list of set operations, if there is one, with values in place of its parameters. -/
def optionalSetOperationsSupplied : Option (List SetOperation) → Option (List SetOperation)
  | none => none
  | some operations => some (setOperationsSupplied operations)

end

end Tree

end Values

end SqlImage
