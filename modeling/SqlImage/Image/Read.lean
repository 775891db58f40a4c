/-
This file reads a tree off an image. An image need not come from a tree any more:
its tags may stand for nothing and its pointers may lead nowhere. Whatever a tree
cannot do without is checked in the order of the fields, going down into a field
before the next one is looked at, and the first fault found is the answer.
-/

import SqlImage.Image.Load

namespace SqlImage.Image

open SqlImage.Tree (Tag)

/-- Why no tree can be read: a pointer leads nowhere where something is needed, or a number stands
for no tag of its list. -/
inductive ReadFault where
  | invalidPointer
  | invalidTag (title : String) (value : UInt32)
deriving DecidableEq, Repr

/-- The words for a fault. -/
def ReadFault.message : ReadFault → String
  | .invalidPointer => "Invalid pointer"
  | .invalidTag title value => "Invalid " ++ title ++ " tag: " ++ toString value.toNat

/-- What is read, or the first fault. -/
abbrev Reading (α : Type) := Except ReadFault α

/-! ### Fields without pointers -/

/-- A tag. -/
def readTag {α : Type} [Tag α] : Content → Reading α
  | .tag ordinal =>
    match (Tag.ofOrdinal? ordinal.toNat : Option α) with
    | some tag => .ok tag
    | none => .error (.invalidTag (Tag.title α) ordinal)
  | _ => .error .invalidPointer

/-- A truth value. -/
def readFlag : Content → Reading Bool
  | .flag value => .ok value
  | _ => .error .invalidPointer

/-- A line or a column. -/
def readPlace : Content → Reading Int32
  | .place value => .ok value
  | _ => .error .invalidPointer

/-- A signed integer. -/
def readInt : Content → Reading Int64
  | .int value => .ok value
  | _ => .error .invalidPointer

/-- A length. -/
def readSize : Content → Reading UInt64
  | .size value => .ok value
  | _ => .error .invalidPointer

/-- A floating-point number. -/
def readDouble : Content → Reading Double
  | .double value => .ok value
  | _ => .error .invalidPointer

/-- A text, which may be absent. -/
def readText : Content → Reading (Option String)
  | .text value => .ok (some value)
  | .absent => .ok none
  | _ => .error .invalidPointer

/-- What may not be absent. -/
def present {α : Type} (read : Reading (Option α)) : Reading α :=
  match read with
  | .ok (some value) => .ok value
  | .ok none => .error .invalidPointer
  | .error fault => .error fault

/-- Texts, none of which may be absent. -/
def readTexts : List Content → Reading (List String)
  | [] => .ok []
  | head :: tail => do
    let text ← present (readText head)
    return text :: (← readTexts tail)

/-- A list of texts, which may be absent. -/
def readTextList : Content → Reading (Option (List String))
  | .noList => .ok none
  | .list elements => do return some (← readTexts elements)
  | _ => .error .invalidPointer

/-- An alias, which may be absent. -/
def readAlias : Content → Reading (Option Tree.Alias)
  | .absent => .ok none
  | .record .label [name, columns] => do
    return some {
      name := ← present (readText name)
      columns := ← readTextList columns }
  | _ => .error .invalidPointer

/-! ### Nodes -/

/-- The base that a statement begins with, given what its hints read as. -/
def readBase (kind stringLength : Content) (hints : Reading (Option (List Tree.Expr))) :
    Reading Tree.Base := do
  return {
    kind := ← readTag kind
    stringLength := ← readSize stringLength
    hints := ← hints }

mutual

/-- A select, which may be absent. -/
def readSelect : Content → Reading (Option Tree.Select)
  | .absent => .ok none
  | .record .select [kind, stringLength, hints, fromTable, selectDistinct, selectList,
      whereClause, groupBy, setOperations, order, withDescriptions, limit] => do
    return some {
      base := ← readBase kind stringLength (readExprList hints)
      fromTable := ← readTable fromTable
      selectDistinct := ← readFlag selectDistinct
      selectList := ← readExprList selectList
      whereClause := ← readExpr whereClause
      groupBy := ← readGroupBy groupBy
      setOperations := ← readSetOperationList setOperations
      order := ← readOrderList order
      withDescriptions := ← readWithList withDescriptions
      limit := ← readLimit limit }
  | _ => .error .invalidPointer
termination_by structural content => content

/-- An expression, which may be absent. -/
def readExpr : Content → Reading (Option Tree.Expr)
  | .absent => .ok none
  | .record .expr [kind, expr, expr2, exprList, select, name, table, label, fval, ival, ival2,
      datetimeField, isBoolLiteral, opType, distinct] => do
    return some {
      kind := ← readTag kind
      expr := ← readExpr expr
      expr2 := ← readExpr expr2
      exprList := ← readExprList exprList
      select := ← readSelect select
      name := ← readText name
      table := ← readText table
      label := ← readText label
      fval := ← readDouble fval
      ival := ← readInt ival
      ival2 := ← readInt ival2
      datetimeField := ← readTag datetimeField
      isBoolLiteral := ← readFlag isBoolLiteral
      opType := ← readTag opType
      distinct := ← readFlag distinct }
  | _ => .error .invalidPointer
termination_by structural content => content

/-- Expressions, none of which may be absent. -/
def readExprs : List Content → Reading (List Tree.Expr)
  | [] => .ok []
  | head :: tail => do
    let expr ← present (readExpr head)
    return expr :: (← readExprs tail)
termination_by structural contents => contents

/-- A list of expressions, which may be absent. -/
def readExprList : Content → Reading (Option (List Tree.Expr))
  | .noList => .ok none
  | .list elements => do return some (← readExprs elements)
  | _ => .error .invalidPointer
termination_by structural content => content

/-- A table reference, which may be absent. -/
def readTable : Content → Reading (Option Tree.TableRef)
  | .absent => .ok none
  | .record .table [kind, schema, name, label, select, list, join] => do
    return some {
      kind := ← readTag kind
      schema := ← readText schema
      name := ← readText name
      label := ← readAlias label
      select := ← readSelect select
      list := ← readTableList list
      join := ← readJoin join }
  | _ => .error .invalidPointer
termination_by structural content => content

/-- Table references, none of which may be absent. -/
def readTables : List Content → Reading (List Tree.TableRef)
  | [] => .ok []
  | head :: tail => do
    let table ← present (readTable head)
    return table :: (← readTables tail)
termination_by structural contents => contents

/-- A list of table references, which may be absent. -/
def readTableList : Content → Reading (Option (List Tree.TableRef))
  | .noList => .ok none
  | .list elements => do return some (← readTables elements)
  | _ => .error .invalidPointer
termination_by structural content => content

/-- A join, which may be absent. -/
def readJoin : Content → Reading (Option Tree.Join)
  | .absent => .ok none
  | .record .join [left, right, condition, kind] => do
    return some {
      left := ← present (readTable left)
      right := ← present (readTable right)
      condition := ← readExpr condition
      kind := ← readTag kind }
  | _ => .error .invalidPointer
termination_by structural content => content

/-- A grouping, which may be absent. -/
def readGroupBy : Content → Reading (Option Tree.GroupBy)
  | .absent => .ok none
  | .record .groupBy [columns, having] => do
    return some {
      columns := ← readExprList columns
      having := ← readExpr having }
  | _ => .error .invalidPointer
termination_by structural content => content

/-- A sort key, which may be absent. -/
def readOrder : Content → Reading (Option Tree.Order)
  | .absent => .ok none
  | .record .order [kind, expr] => do
    return some {
      kind := ← readTag kind
      expr := ← present (readExpr expr) }
  | _ => .error .invalidPointer
termination_by structural content => content

/-- Sort keys, none of which may be absent. -/
def readOrders : List Content → Reading (List Tree.Order)
  | [] => .ok []
  | head :: tail => do
    let order ← present (readOrder head)
    return order :: (← readOrders tail)
termination_by structural contents => contents

/-- A list of sort keys, which may be absent. -/
def readOrderList : Content → Reading (Option (List Tree.Order))
  | .noList => .ok none
  | .list elements => do return some (← readOrders elements)
  | _ => .error .invalidPointer
termination_by structural content => content

/-- A named subquery, which may be absent. -/
def readWith : Content → Reading (Option Tree.With)
  | .absent => .ok none
  | .record .withQuery [label, select] => do
    return some {
      label := ← present (readText label)
      select := ← present (readSelect select) }
  | _ => .error .invalidPointer
termination_by structural content => content

/-- Named subqueries, none of which may be absent. -/
def readWiths : List Content → Reading (List Tree.With)
  | [] => .ok []
  | head :: tail => do
    let withQuery ← present (readWith head)
    return withQuery :: (← readWiths tail)
termination_by structural contents => contents

/-- A list of named subqueries, which may be absent. -/
def readWithList : Content → Reading (Option (List Tree.With))
  | .noList => .ok none
  | .list elements => do return some (← readWiths elements)
  | _ => .error .invalidPointer
termination_by structural content => content

/-- A limit, which may be absent. -/
def readLimit : Content → Reading (Option Tree.Limit)
  | .absent => .ok none
  | .record .limit [limit, offset] => do
    return some {
      limit := ← readExpr limit
      offset := ← readExpr offset }
  | _ => .error .invalidPointer
termination_by structural content => content

/-- A set operation, which may be absent. -/
def readSetOperation : Content → Reading (Option Tree.SetOperation)
  | .absent => .ok none
  | .record .setOperation [kind, isAll, nestedSelect, resultOrder, resultLimit] => do
    return some {
      kind := ← readTag kind
      isAll := ← readFlag isAll
      nestedSelect := ← present (readSelect nestedSelect)
      resultOrder := ← readOrderList resultOrder
      resultLimit := ← readLimit resultLimit }
  | _ => .error .invalidPointer
termination_by structural content => content

/-- Set operations, none of which may be absent. -/
def readSetOperations : List Content → Reading (List Tree.SetOperation)
  | [] => .ok []
  | head :: tail => do
    let operation ← present (readSetOperation head)
    return operation :: (← readSetOperations tail)
termination_by structural contents => contents

/-- A list of set operations, which may be absent. -/
def readSetOperationList : Content → Reading (Option (List Tree.SetOperation))
  | .noList => .ok none
  | .list elements => do return some (← readSetOperations elements)
  | _ => .error .invalidPointer
termination_by structural content => content

end

/-! ### Statements and results -/

/-- A statement, which may be absent. One that is not a select is read off its base. -/
def readStatement : Content → Reading (Option Tree.Statement)
  | .absent => .ok none
  | .record .statement [kind, stringLength, hints] => do
    return some (.ofBase (← readBase kind stringLength (readExprList hints)))
  | content => do return (← readSelect content).map .select

/-- Statements, none of which may be absent. -/
def readStatements : List Content → Reading (List Tree.Statement)
  | [] => .ok []
  | head :: tail => do
    let statement ← present (readStatement head)
    return statement :: (← readStatements tail)

/-- A list of statements, which may be absent. -/
def readStatementList : Content → Reading (Option (List Tree.Statement))
  | .noList => .ok none
  | .list elements => do return some (← readStatements elements)
  | _ => .error .invalidPointer

/-- A result. A valid one needs its statements, and one that is not valid needs no message. -/
def readResult : Content → Reading Tree.ParseResult
  | .record .result [isValid, errorMessage, errorLine, errorColumn, statements] => do
    if ← readFlag isValid then
      return .valid (← present (readStatementList statements))
    else
      return .invalid {
        message := (← readText errorMessage).getD ""
        line := ← readPlace errorLine
        column := ← readPlace errorColumn }
  | _ => .error .invalidPointer

/-- Why no tree can be read off an image in memory: memory that it needs is gone, or what it says
is no tree. -/
inductive HeapReadFault where
  | gone
  | unreadable (fault : ReadFault)
deriving DecidableEq, Repr

/-- Reads the tree off the image of a result. A root that leads nowhere has no tree. -/
def Heap.read (heap : Heap) (root : Option Address) : Except HeapReadFault Tree.ParseResult :=
  match root with
  | none => .error (.unreadable .invalidPointer)
  | some address =>
    match heap.load address with
    | none => .error .gone
    | some content =>
      match readResult content with
      | .ok result => .ok result
      | .error fault => .error (.unreadable fault)

end SqlImage.Image
