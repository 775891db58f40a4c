/-
This file holds what an image says, without saying where anything is kept: the
content of a record is the contents of its fields, a pointer is absent or has the
content that it leads to, and a sequence is absent or a list. Every tree has a
content. Two things are lost on the way: a text ends at its first zero character,
and of a statement whose kind is not select only the base is kept.
-/

import SqlImage.Image.Kind
import SqlImage.Tree.Basic

namespace SqlImage.Image

/-- What a field or an array element of an image says. -/
inductive Content where
  | tag (ordinal : UInt32)
  | flag (value : Bool)
  | place (value : Int32)
  | int (value : Int64)
  | size (value : UInt64)
  | double (value : Double)
  /-- A pointer that leads nowhere. -/
  | absent
  | text (value : String)
  | record (kind : Kind) (fields : List Content)
  /-- A sequence that is not there. -/
  | noList
  | list (elements : List Content)
deriving Inhabited

/-! ### The number of cells -/

mutual

/-- The number of cells that an image of the content takes: one for each record, for each text,
and for each list that has an element. -/
def Content.cells : Content → Nat
  | .text _ => 1
  | .record _ fields => 1 + contentsCells fields
  | .list [] => 0
  | .list (head :: tail) => 1 + head.cells + contentsCells tail
  | _ => 0

/-- The number of cells that several contents take. -/
def contentsCells : List Content → Nat
  | [] => 0
  | head :: tail => head.cells + contentsCells tail

end

/-! ### The routine of a statement -/

/-- How a statement is laid out: with all the clauses of a select, or with its base only. -/
inductive Routine where
  | select
  | baseOnly
deriving DecidableEq, Repr

/-- The routine for a kind of statement. -/
def Routine.ofKind : Tree.StatementKind → Routine
  | .select => .select
  | _ => .baseOnly

/-- The routine for the number that stands for a kind. A number that stands for none leaves the
base only. -/
def Routine.ofOrdinal (ordinal : UInt32) : Routine :=
  match (Tree.Tag.ofOrdinal? ordinal.toNat : Option Tree.StatementKind) with
  | some kind => ofKind kind
  | none => .baseOnly

/-- The name of a routine. -/
def Routine.name : Routine → String
  | .select => "Select"
  | .baseOnly => "BaseOnly"

/-! ### The content of a tree -/

/-- A text as far as its first zero character. -/
def cutAtZero (text : String) : String :=
  String.ofList (text.toList.takeWhile (·.toNat ≠ 0))

/-- The content of a tag. -/
def tagContent {α : Type} [Tree.Tag α] [DecidableEq α] (tag : α) : Content :=
  .tag (UInt32.ofNat (Tree.Tag.ordinal tag))

/-- The content of a text. -/
def textContent (text : String) : Content := .text (cutAtZero text)

/-- The content of a text that may be absent. -/
def optionalTextContent : Option String → Content
  | none => .absent
  | some text => textContent text

end SqlImage.Image

namespace SqlImage.Tree

open SqlImage.Image

/-- The content of column names that may be absent. -/
def optionalColumnsContent : Option (List String) → Content
  | none => .noList
  | some columns => .list (columns.map textContent)

/-- The content of an alias. -/
def Alias.content (label : Alias) : Content :=
  .record .label [textContent label.name, optionalColumnsContent label.columns]

/-- The content of an alias that may be absent. -/
def optionalAliasContent : Option Alias → Content
  | none => .absent
  | some label => label.content

mutual

/-- The contents of the fields that every statement begins with. -/
def Base.contents : Base → List Content
  | ⟨kind, stringLength, hints⟩ =>
    [tagContent kind, .size stringLength, optionalExprsContent hints]

/-- The content of a select. -/
def Select.content : Select → Content
  | ⟨base, fromTable, selectDistinct, selectList, whereClause, groupBy, setOperations, order,
      withDescriptions, limit⟩ =>
    .record .select (base.contents ++ [
      optionalTableRefContent fromTable,
      .flag selectDistinct,
      optionalExprsContent selectList,
      optionalExprContent whereClause,
      optionalGroupByContent groupBy,
      optionalSetOperationsContent setOperations,
      optionalOrdersContent order,
      optionalWithsContent withDescriptions,
      optionalLimitContent limit])

/-- The content of a select that may be absent. -/
def optionalSelectContent : Option Select → Content
  | none => .absent
  | some select => select.content

/-- The content of an expression. -/
def Expr.content : Expr → Content
  | ⟨kind, expr, expr2, exprList, select, name, table, label, fval, ival, ival2, datetimeField,
      isBoolLiteral, opType, distinct⟩ =>
    .record .expr [
      tagContent kind,
      optionalExprContent expr,
      optionalExprContent expr2,
      optionalExprsContent exprList,
      optionalSelectContent select,
      optionalTextContent name,
      optionalTextContent table,
      optionalTextContent label,
      .double fval,
      .int ival,
      .int ival2,
      tagContent datetimeField,
      .flag isBoolLiteral,
      tagContent opType,
      .flag distinct]

/-- The content of an expression that may be absent. -/
def optionalExprContent : Option Expr → Content
  | none => .absent
  | some expr => expr.content

/-- The contents of expressions. -/
def exprsContents : List Expr → List Content
  | [] => []
  | head :: tail => head.content :: exprsContents tail

/-- The content of a list of expressions that may be absent. -/
def optionalExprsContent : Option (List Expr) → Content
  | none => .noList
  | some exprs => .list (exprsContents exprs)

/-- The content of a table reference. -/
def TableRef.content : TableRef → Content
  | ⟨kind, schema, name, label, select, list, join⟩ =>
    .record .table [
      tagContent kind,
      optionalTextContent schema,
      optionalTextContent name,
      optionalAliasContent label,
      optionalSelectContent select,
      optionalTableRefsContent list,
      optionalJoinContent join]

/-- The content of a table reference that may be absent. -/
def optionalTableRefContent : Option TableRef → Content
  | none => .absent
  | some table => table.content

/-- The contents of table references. -/
def tableRefsContents : List TableRef → List Content
  | [] => []
  | head :: tail => head.content :: tableRefsContents tail

/-- The content of a list of table references that may be absent. -/
def optionalTableRefsContent : Option (List TableRef) → Content
  | none => .noList
  | some tables => .list (tableRefsContents tables)

/-- The content of a join. -/
def Join.content : Join → Content
  | ⟨left, right, condition, kind⟩ =>
    .record .join [left.content, right.content, optionalExprContent condition, tagContent kind]

/-- The content of a join that may be absent. -/
def optionalJoinContent : Option Join → Content
  | none => .absent
  | some join => join.content

/-- The content of a grouping. -/
def GroupBy.content : GroupBy → Content
  | ⟨columns, having⟩ =>
    .record .groupBy [optionalExprsContent columns, optionalExprContent having]

/-- The content of a grouping that may be absent. -/
def optionalGroupByContent : Option GroupBy → Content
  | none => .absent
  | some groupBy => groupBy.content

/-- The content of a sort key. -/
def Order.content : Order → Content
  | ⟨kind, expr⟩ => .record .order [tagContent kind, expr.content]

/-- The contents of sort keys. -/
def ordersContents : List Order → List Content
  | [] => []
  | head :: tail => head.content :: ordersContents tail

/-- The content of a list of sort keys that may be absent. -/
def optionalOrdersContent : Option (List Order) → Content
  | none => .noList
  | some orders => .list (ordersContents orders)

/-- The content of a named subquery. -/
def With.content : With → Content
  | ⟨label, select⟩ => .record .withQuery [textContent label, select.content]

/-- The contents of named subqueries. -/
def withsContents : List With → List Content
  | [] => []
  | head :: tail => head.content :: withsContents tail

/-- The content of a list of named subqueries that may be absent. -/
def optionalWithsContent : Option (List With) → Content
  | none => .noList
  | some withs => .list (withsContents withs)

/-- The content of a limit. -/
def Limit.content : Limit → Content
  | ⟨limit, offset⟩ => .record .limit [optionalExprContent limit, optionalExprContent offset]

/-- The content of a limit that may be absent. -/
def optionalLimitContent : Option Limit → Content
  | none => .absent
  | some limit => limit.content

/-- The content of a set operation. -/
def SetOperation.content : SetOperation → Content
  | ⟨kind, isAll, nestedSelect, resultOrder, resultLimit⟩ =>
    .record .setOperation [
      tagContent kind,
      .flag isAll,
      nestedSelect.content,
      optionalOrdersContent resultOrder,
      optionalLimitContent resultLimit]

/-- The contents of set operations. -/
def setOperationsContents : List SetOperation → List Content
  | [] => []
  | head :: tail => head.content :: setOperationsContents tail

/-- The content of a list of set operations that may be absent. -/
def optionalSetOperationsContent : Option (List SetOperation) → Content
  | none => .noList
  | some operations => .list (setOperationsContents operations)

end

/-- The content of a statement. The kind decides: a select is laid out in full, without any
clause if the statement has another form, and of every other kind only the base is kept. -/
def Statement.content (statement : Statement) : Content :=
  match Routine.ofKind statement.base.kind with
  | .select =>
    match statement with
    | .select body => body.content
    | bare => (Select.ofBase bare.base).content
  | .baseOnly => .record .statement statement.base.contents

/-- The content of a result. -/
def ParseResult.content : ParseResult → Content
  | .valid statements =>
    .record .result [.flag true, .absent, .place 0, .place 0,
      .list (statements.map Statement.content)]
  | .invalid error =>
    .record .result [.flag false, textContent error.message, .place error.line,
      .place error.column, .noList]

end SqlImage.Tree
