/-
This file turns queries and expressions into trees. Everything is visited in the
order in which it was written, so placeholders are numbered by their place, and of
two constructs that no tree can hold the first one visited is named. Only two
clauses are looked at before their turn: the number of rows to fetch, and the
clauses of a select that no tree can hold.
-/

import SqlImage.Lowering.Leaf
import SqlImage.Lowering.Slots

namespace SqlImage.Sql

open Lowering

/-! ### Checks before the visit -/

/-- Refuses a select with a clause that no tree can hold. -/
def Select.check (select : Select) : Lowering Unit := do
  unless select.top.isEmpty do refuse .top
  unless select.into.isEmpty do refuse .into
  unless select.lateralViews.isEmpty do refuse .lateralView
  unless select.distribution.isEmpty do refuse .distribution
  unless select.windows.isEmpty do refuse .namedWindow
  unless select.qualify.isEmpty do refuse .qualify

/-- Whether the rows of a select are distinct. -/
def Distinct.lower : Distinct → Lowering Bool
  | .no => return false
  | .rows => return true
  | .on _ => refuse .distinctOn

/-! ### Clauses -/

/-- A sort by keys, if there are any. -/
def sort (keys : List Tree.Order) : Option (List Tree.Order) :=
  if keys.isEmpty then none else some keys

/-- A limit, if the wanted rows or those left out are counted. -/
def rows (limit offset : Option Tree.Expr) : Option Tree.Limit :=
  match limit, offset with
  | none, none => none
  | limit, offset => some ⟨limit, offset⟩

/-- A grouping, if there are keys or a condition. -/
def groups (columns : Option (List Tree.Expr)) (having : Option Tree.Expr) : Option Tree.GroupBy :=
  match columns, having with
  | none, none => none
  | columns, having => some ⟨columns, having⟩

/-! ### The visit -/

mutual

/-- The tree of an expression. Parentheses and a sign that changes nothing leave no trace. -/
def Expr.lower : Expr → Lowering Tree.Expr
  | .column path => column path
  | .star => return .star none
  | .qualifiedStar name => return .star (lastPart name)
  | .literal value => literal value
  | .nested inner => inner.lower
  | .unary .not operand => return .unary .not (← operand.lower)
  | .unary .minus operand => return .unary .unaryMinus (← operand.lower)
  | .unary .plus operand => operand.lower
  | .unary .factorial _ => refuse (.operator "!")
  | .binary operator left right => do
    let operator ← binaryOperator operator
    return .binary operator (← left.lower) (← right.lower)
  | .isNull negated operand => return negate negated (.unary .isNull (← operand.lower))
  | .like false _ _ _ (some _) => refuse .likeEscape
  | .like true _ _ _ (some _) => refuse .caselessLikeEscape
  | .like false negated operand pattern none => do
    let operator := if negated then .notLike else .like
    return .binary operator (← operand.lower) (← pattern.lower)
  | .like true negated operand pattern none =>
    return negate negated (.binary .iLike (← operand.lower) (← pattern.lower))
  | .between negated operand low high =>
    return negate negated (.between (← operand.lower) (← low.lower) (← high.lower))
  | .inList negated operand list =>
    return negate negated (.inList (← operand.lower) (← lowerExprs list))
  | .inQuery negated operand query =>
    return negate negated (.inSelect (← operand.lower) (← query.lower))
  | .hasRow negated query => return negate negated (.hasRow (← query.lower))
  | .subquery query => return .subquery (← query.lower)
  | .call call => call.lower
  | .case operand branches otherwise =>
    return .case (← lowerOption operand) (← lowerBranches branches) (← lowerOption otherwise)
  | .extract field operand => return .extract (← timeField field) (← operand.lower)
  | .interval value unit => return .interval (← intervalField unit) (← value.lower)
  | .array _ elements => return .array (← lowerExprs elements)
  | .index operand subscripts => do
    let operand ← operand.lower
    subscripts.foldlM (fun array index => return .arrayIndex array (← subscript index)) operand
  | .phrase pieces => refuse (.expression (Expr.phrase pieces).print)

/-- The trees of expressions. -/
def lowerExprs : List Expr → Lowering (List Tree.Expr)
  | [] => return []
  | first :: rest => return (← first.lower) :: (← lowerExprs rest)

/-- The tree of an expression that may be absent. -/
def lowerOption : Option Expr → Lowering (Option Tree.Expr)
  | none => return none
  | some expr => return some (← expr.lower)

/-- The trees of the branches of a choice. -/
def lowerBranches : List Branch → Lowering (List Tree.Expr)
  | [] => return []
  | ⟨condition, result⟩ :: rest =>
    return .caseBranch (← condition.lower) (← result.lower) :: (← lowerBranches rest)

/-- The tree of a function applied to arguments. Its name is one text. -/
def Call.lower : Call → Lowering Tree.Expr
  | ⟨name, distinct, arguments, _, _, _, window, _⟩ => do
    unless window.isEmpty do refuse .window
    let arguments ← lowerArguments arguments
    return .functionRef (".".intercalate (name.map Ident.value)) arguments distinct

/-- The trees of the arguments of a function, none of which may have a name. -/
def lowerArguments : List Argument → Lowering (List Tree.Expr)
  | [] => return []
  | ⟨some _, _⟩ :: _ => refuse .namedArgument
  | ⟨none, value⟩ :: rest => return (← value.lower) :: (← lowerArguments rest)

/-- The tree of what is given to a function. -/
def ArgumentValue.lower : ArgumentValue → Lowering Tree.Expr
  | .expr expr => expr.lower
  | .star => return .star none
  | .qualifiedStar name => return .star (lastPart name)

/-- The tree of a sort. Where null values stand cannot be chosen. -/
def lowerOrder : List OrderItem → Lowering (List Tree.Order)
  | [] => return []
  | ⟨expr, ascending, nullsFirst⟩ :: rest => do
    if nullsFirst.isSome then refuse .nullsOrder
    let kind := if ascending = some false then .descending else .ascending
    return ⟨kind, ← expr.lower⟩ :: (← lowerOrder rest)

/-- The tree of a query: that of its body with the clauses of the query put into it. -/
def Query.lower : Query → Lowering Tree.Select
  | ⟨withClause, body, order, limit, _, offset, _, fetch, _⟩ => do
    unless fetch.isEmpty do refuse .fetch
    let tables ← lowerWith withClause
    let select ← fillTables tables (← body.lower)
    let keys ← lowerOrder order
    let limit ← lowerOption limit
    let offset ← lowerOption offset
    fillRows body.isCompound (sort keys) (rows limit offset) select

/-- The trees of the named queries that may stand in front of a query. -/
def lowerWith : Option With → Lowering (Option (List Tree.With))
  | none => return none
  | some tables => return some (← tables.lower)

/-- The trees of the named queries in front of a query. -/
def With.lower : With → Lowering (List Tree.With)
  | ⟨recursive, tables⟩ => do
    if recursive then refuse .recursiveWith
    lowerNamedQueries tables

/-- The trees of named queries. Their columns cannot be named. -/
def lowerNamedQueries : List NamedQuery → Lowering (List Tree.With)
  | [] => return []
  | ⟨label, query, _⟩ :: rest => do
    unless label.columns.isEmpty do refuse .withColumns
    return ⟨label.name.value, ← query.lower⟩ :: (← lowerNamedQueries rest)

/-- The tree of the body of a query. A set operation is put behind those of its left side. -/
def Body.lower : Body → Lowering Tree.Select
  | .select select => select.lower
  | .query query => query.lower
  | .operation kind quantifier left right => do
    let isAll ← keepsAll quantifier
    let select ← left.lower
    let nestedSelect ← right.lower
    return addOperation ⟨kind, isAll, nestedSelect, none, none⟩ select
  | .values _ => refuse .values
  | .phrase pieces => refuse (.body (Body.phrase pieces).print)

/-- The tree of a select. -/
def Select.lower : Select → Lowering Tree.Select
  | ⟨distinct, top, items, into, tables, lateralViews, selection, grouping, distribution, having,
      windows, qualify⟩ => do
    Select.check ⟨distinct, top, items, into, tables, lateralViews, selection, grouping,
      distribution, having, windows, qualify⟩
    let selectDistinct ← distinct.lower
    let selectList ← lowerItems items
    let fromTable ← lowerTables tables
    let whereClause ← lowerOption selection
    let columns ← grouping.lower
    let having ← lowerOption having
    return { Tree.Select.empty with
      selectDistinct, selectList := some selectList, fromTable, whereClause,
      groupBy := groups columns having }

/-- The trees of the items of a select list. -/
def lowerItems : List SelectItem → Lowering (List Tree.Expr)
  | [] => return []
  | first :: rest => return (← first.lower) :: (← lowerItems rest)

/-- The tree of one item of a select list. The options of a star leave no trace. -/
def SelectItem.lower : SelectItem → Lowering Tree.Expr
  | .expr expr none => expr.lower
  | .expr expr (some label) => return (← expr.lower).withAlias label.value
  | .star _ => return .star none
  | .qualifiedStar name _ => return .star (lastPart name)

/-- The keys of a grouping, if there are any. -/
def Grouping.lower : Grouping → Lowering (Option (List Tree.Expr))
  | .all => refuse .groupByAll
  | .keys [] => return none
  | .keys (first :: rest) => return some ((← first.lower) :: (← lowerExprs rest))

/-- The tree of the tables that a select reads. Several stand side by side. -/
def lowerTables : List FromItem → Lowering (Option Tree.TableRef)
  | [] => return none
  | [item] => return some (← item.lower)
  | first :: second :: rest => do
    let first ← first.lower
    let second ← second.lower
    return some (.crossProduct (first :: second :: (← lowerFromItems rest)))

/-- The trees of tables and what is joined to each. -/
def lowerFromItems : List FromItem → Lowering (List Tree.TableRef)
  | [] => return []
  | first :: rest => return (← first.lower) :: (← lowerFromItems rest)

/-- The tree of a table and what is joined to it. -/
def FromItem.lower : FromItem → Lowering Tree.TableRef
  | ⟨factor, joins⟩ => do lowerJoins (← factor.lower) joins

/-- The tree of a table with joins, each of which has all before it on its left side. -/
def lowerJoins (left : Tree.TableRef) : List Join → Lowering Tree.TableRef
  | [] => return left
  | ⟨operator, factor⟩ :: rest => do
    let kind ← joinKind operator
    let right ← factor.lower
    let (kind, condition) ← operator.lower kind
    lowerJoins (.ofJoin ⟨left, right, condition, kind⟩) rest

/-- The kind of a join and its condition. -/
def JoinOperator.lower (kind : Tree.JoinKind) :
    JoinOperator → Lowering (Tree.JoinKind × Option Tree.Expr)
  | .constrained _ (.on condition) => return (kind, some (← condition.lower))
  | .constrained _ (.using _) => refuse .joinUsing
  | .constrained _ .natural => return (.natural, none)
  | _ => return (kind, none)

/-- The tree of anything that stands for a table. -/
def TableFactor.lower : TableFactor → Lowering Tree.TableRef
  | .table name _ _ label _ =>
    return { ← tableName name with label := label.map Lowering.label }
  | .derived true _ _ => refuse .lateral
  | .derived false query label =>
    return { Tree.TableRef.subquery (← query.lower) with label := label.map Lowering.label }
  | .nested inner label => do
    let table ← inner.lower
    match label with
    | none => return table
    | some label => return { table with label := some (Lowering.label label) }
  | .phrase before label after =>
    refuse (.tableReference (TableFactor.phrase before label after).print)

end

end SqlImage.Sql
