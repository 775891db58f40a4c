/-
This file gives trees a form in JSON and reads it back. A record is an object
with its fields in order, a field that is absent is null, and a choice is an
object with one member named for the form chosen. Reading takes an absent field
that may be missing, passes over members it does not know, takes the list of all
fields of a record in place of its object, and refuses everything else.
-/

import SqlImage.Json.Printer
import SqlImage.Tree.Basic

namespace SqlImage.Tree

open SqlImage.Json (Value)

/-! ### Writing -/

/-- A tag as its name. -/
def tagJson {α : Type} [Tag α] [DecidableEq α] (tag : α) : Value := .text (Tag.name tag)

/-- A text, or null. -/
def optionalTextJson : Option String → Value
  | none => .null
  | some text => .text text

/-- An alias as an object. -/
def Alias.toJson (label : Alias) : Value :=
  .object [
    ("name", .text label.name),
    ("columns", match label.columns with
      | none => .null
      | some columns => .list (columns.map .text))]

mutual

/-- A base as an object. -/
def Base.toJson : Base → Value
  | ⟨kind, stringLength, hints⟩ =>
    .object [
      ("kind", tagJson kind),
      ("string_length", .ofInt stringLength.toNat),
      ("hints", optionalExprsJson hints)]

/-- A select as an object. -/
def Select.toJson : Select → Value
  | ⟨base, fromTable, selectDistinct, selectList, whereClause, groupBy, setOperations, order,
      withDescriptions, limit⟩ =>
    .object [
      ("base", base.toJson),
      ("from_table", match fromTable with
        | none => .null
        | some table => table.toJson),
      ("select_distinct", .boolean selectDistinct),
      ("select_list", optionalExprsJson selectList),
      ("where_clause", match whereClause with
        | none => .null
        | some expr => expr.toJson),
      ("group_by", match groupBy with
        | none => .null
        | some groupBy => groupBy.toJson),
      ("set_operations", match setOperations with
        | none => .null
        | some operations => .list (setOperationsJson operations)),
      ("order", optionalOrdersJson order),
      ("with_descriptions", match withDescriptions with
        | none => .null
        | some withs => .list (withsJson withs)),
      ("limit", optionalLimitJson limit)]

/-- An expression as an object. -/
def Expr.toJson : Expr → Value
  | ⟨kind, expr, expr2, exprList, select, name, table, label, fval, ival, ival2, datetimeField,
      isBoolLiteral, opType, distinct⟩ =>
    .object [
      ("kind", tagJson kind),
      ("expr", match expr with
        | none => .null
        | some expr => expr.toJson),
      ("expr2", match expr2 with
        | none => .null
        | some expr => expr.toJson),
      ("expr_list", optionalExprsJson exprList),
      ("select", match select with
        | none => .null
        | some select => select.toJson),
      ("name", optionalTextJson name),
      ("table", optionalTextJson table),
      ("alias", optionalTextJson label),
      ("fval", .ofDouble fval),
      ("ival", .ofInt ival.toInt),
      ("ival2", .ofInt ival2.toInt),
      ("datetime_field", tagJson datetimeField),
      ("is_bool_literal", .boolean isBoolLiteral),
      ("op_type", tagJson opType),
      ("distinct", .boolean distinct)]

/-- Expressions as values. -/
def exprsJson : List Expr → List Value
  | [] => []
  | head :: tail => head.toJson :: exprsJson tail

/-- Expressions as a list, or null. -/
def optionalExprsJson : Option (List Expr) → Value
  | none => .null
  | some exprs => .list (exprsJson exprs)

/-- A table reference as an object. -/
def TableRef.toJson : TableRef → Value
  | ⟨kind, schema, name, label, select, list, join⟩ =>
    .object [
      ("kind", tagJson kind),
      ("schema", optionalTextJson schema),
      ("name", optionalTextJson name),
      ("alias", match label with
        | none => .null
        | some label => label.toJson),
      ("select", match select with
        | none => .null
        | some select => select.toJson),
      ("list", match list with
        | none => .null
        | some tables => .list (tableRefsJson tables)),
      ("join", match join with
        | none => .null
        | some join => join.toJson)]

/-- Table references as values. -/
def tableRefsJson : List TableRef → List Value
  | [] => []
  | head :: tail => head.toJson :: tableRefsJson tail

/-- A join as an object. -/
def Join.toJson : Join → Value
  | ⟨left, right, condition, kind⟩ =>
    .object [
      ("left", left.toJson),
      ("right", right.toJson),
      ("condition", match condition with
        | none => .null
        | some expr => expr.toJson),
      ("kind", tagJson kind)]

/-- A grouping as an object. -/
def GroupBy.toJson : GroupBy → Value
  | ⟨columns, having⟩ =>
    .object [
      ("columns", optionalExprsJson columns),
      ("having", match having with
        | none => .null
        | some expr => expr.toJson)]

/-- A sort key as an object. -/
def Order.toJson : Order → Value
  | ⟨kind, expr⟩ => .object [("kind", tagJson kind), ("expr", expr.toJson)]

/-- Sort keys as values. -/
def ordersJson : List Order → List Value
  | [] => []
  | head :: tail => head.toJson :: ordersJson tail

/-- Sort keys as a list, or null. -/
def optionalOrdersJson : Option (List Order) → Value
  | none => .null
  | some orders => .list (ordersJson orders)

/-- A named subquery as an object. -/
def With.toJson : With → Value
  | ⟨label, select⟩ => .object [("alias", .text label), ("select", select.toJson)]

/-- Named subqueries as values. -/
def withsJson : List With → List Value
  | [] => []
  | head :: tail => head.toJson :: withsJson tail

/-- A limit as an object. -/
def Limit.toJson : Limit → Value
  | ⟨limit, offset⟩ =>
    .object [
      ("limit", match limit with
        | none => .null
        | some expr => expr.toJson),
      ("offset", match offset with
        | none => .null
        | some expr => expr.toJson)]

/-- A limit as an object, or null. -/
def optionalLimitJson : Option Limit → Value
  | none => .null
  | some limit => limit.toJson

/-- A set operation as an object. -/
def SetOperation.toJson : SetOperation → Value
  | ⟨kind, isAll, nestedSelect, resultOrder, resultLimit⟩ =>
    .object [
      ("kind", tagJson kind),
      ("is_all", .boolean isAll),
      ("nested_select", nestedSelect.toJson),
      ("result_order", optionalOrdersJson resultOrder),
      ("result_limit", optionalLimitJson resultLimit)]

/-- Set operations as values. -/
def setOperationsJson : List SetOperation → List Value
  | [] => []
  | head :: tail => head.toJson :: setOperationsJson tail

end

/-- A statement as an object that names its form. -/
def Statement.toJson : Statement → Value
  | .select body => .object [("Select", body.toJson)]
  | .insert base => .object [("Insert", .object [("base", base.toJson)])]
  | .update base => .object [("Update", .object [("base", base.toJson)])]
  | .delete base => .object [("Delete", .object [("base", base.toJson)])]
  | .other base => .object [("Other", base.toJson)]

/-- A result as an object that names its form. -/
def ParseResult.toJson : ParseResult → Value
  | .valid statements => .object [("Valid", .list (statements.map Statement.toJson))]
  | .invalid error =>
    .object [("Invalid", .object [
      ("message", .text error.message),
      ("line", .ofInt error.line.toInt),
      ("column", .ofInt error.column.toInt)])]

/-- The pretty JSON text of a result. -/
def ParseResult.toJsonText (result : ParseResult) : String := result.toJson.toPretty 0

/-! ### Reading fields -/

section Fields

variable {α : Type}

/-- A field that has to be there. -/
def required (name : String) (read : Value → Option α) (record : Value) : Option α :=
  (record.member? name).bind read

/-- A field that may be missing or null. -/
def optional (name : String) (read : Value → Option α) (record : Value) : Option (Option α) :=
  match record.member? name with
  | none => some none
  | some .null => some none
  | some value => (read value).map some

/-- A record as an object with fields of these names. The list of all its fields in their order
stands for it too, and there no field may be missing. -/
def record (names : List String) : Value → Option Value
  | .object members => some (.object members)
  | .list fields =>
    if fields.length = names.length then some (.object (names.zip fields)) else none
  | _ => none

/-- A list, each element of which can be read. -/
def listOf (read : Value → Option α) : Value → Option (List α)
  | .list elements => elements.mapM read
  | _ => none

/-- A truth value. -/
def readBoolean : Value → Option Bool
  | .boolean value => some value
  | _ => none

/-- A signed 64-bit integer. -/
def readInt64 (value : Value) : Option Int64 :=
  (value.intWithin? Int64.minValue.toInt Int64.maxValue.toInt).map Int64.ofInt

/-- A signed 32-bit integer. -/
def readInt32 (value : Value) : Option Int32 :=
  (value.intWithin? Int32.minValue.toInt Int32.maxValue.toInt).map Int32.ofInt

/-- An unsigned 64-bit integer. -/
def readUInt64 (value : Value) : Option UInt64 :=
  (value.intWithin? 0 (Int.ofNat (UInt64.size - 1))).map fun value => UInt64.ofNat value.toNat

/-- A floating-point number. -/
def readDouble : Value → Option Double
  | .number written => some written.toDouble
  | _ => none

/-- The only name of an object, by which it names its form, and the member that counts. -/
def onlyMember : Value → Option (String × Value)
  | .object members =>
    members.getLast?.filter fun last => members.all fun member => member.1 = last.1
  | _ => none

/-- A tag by its name, or by an object that names it and says nothing more. -/
def readTag [Tag α] : Value → Option α
  | .text name => Tag.ofName? name
  | value =>
    match onlyMember value with
    | some (name, .null) => Tag.ofName? name
    | _ => none

end Fields

/-! ### Reading trees -/

/-- An alias from its object. -/
def Alias.ofJson? (value : Value) : Option Alias := do
  let value ← record ["name", "columns"] value
  return {
    name := ← required "name" Value.text? value
    columns := ← optional "columns" (listOf Value.text?) value }

mutual

/-- A base from its object. -/
def Base.ofJson? : (fuel : Nat) → Value → Option Base
  | 0, _ => none
  | fuel + 1, value => do
    let value ← record ["kind", "string_length", "hints"] value
    return {
      kind := ← required "kind" readTag value
      stringLength := ← required "string_length" readUInt64 value
      hints := ← optional "hints" (listOf (Expr.ofJson? fuel)) value }

/-- A select from its object. -/
def Select.ofJson? : (fuel : Nat) → Value → Option Select
  | 0, _ => none
  | fuel + 1, value => do
    let value ← record [
      "base", "from_table", "select_distinct", "select_list", "where_clause", "group_by",
      "set_operations", "order", "with_descriptions", "limit"] value
    return {
      base := ← required "base" (Base.ofJson? fuel) value
      fromTable := ← optional "from_table" (TableRef.ofJson? fuel) value
      selectDistinct := ← required "select_distinct" readBoolean value
      selectList := ← optional "select_list" (listOf (Expr.ofJson? fuel)) value
      whereClause := ← optional "where_clause" (Expr.ofJson? fuel) value
      groupBy := ← optional "group_by" (GroupBy.ofJson? fuel) value
      setOperations := ← optional "set_operations" (listOf (SetOperation.ofJson? fuel)) value
      order := ← optional "order" (listOf (Order.ofJson? fuel)) value
      withDescriptions := ← optional "with_descriptions" (listOf (With.ofJson? fuel)) value
      limit := ← optional "limit" (Limit.ofJson? fuel) value }

/-- An expression from its object. -/
def Expr.ofJson? : (fuel : Nat) → Value → Option Expr
  | 0, _ => none
  | fuel + 1, value => do
    let value ← record [
      "kind", "expr", "expr2", "expr_list", "select", "name", "table", "alias", "fval", "ival",
      "ival2", "datetime_field", "is_bool_literal", "op_type", "distinct"] value
    return {
      kind := ← required "kind" readTag value
      expr := ← optional "expr" (Expr.ofJson? fuel) value
      expr2 := ← optional "expr2" (Expr.ofJson? fuel) value
      exprList := ← optional "expr_list" (listOf (Expr.ofJson? fuel)) value
      select := ← optional "select" (Select.ofJson? fuel) value
      name := ← optional "name" Value.text? value
      table := ← optional "table" Value.text? value
      label := ← optional "alias" Value.text? value
      fval := ← required "fval" readDouble value
      ival := ← required "ival" readInt64 value
      ival2 := ← required "ival2" readInt64 value
      datetimeField := ← required "datetime_field" readTag value
      isBoolLiteral := ← required "is_bool_literal" readBoolean value
      opType := ← required "op_type" readTag value
      distinct := ← required "distinct" readBoolean value }

/-- A table reference from its object. -/
def TableRef.ofJson? : (fuel : Nat) → Value → Option TableRef
  | 0, _ => none
  | fuel + 1, value => do
    let value ← record ["kind", "schema", "name", "alias", "select", "list", "join"] value
    return {
      kind := ← required "kind" readTag value
      schema := ← optional "schema" Value.text? value
      name := ← optional "name" Value.text? value
      label := ← optional "alias" Alias.ofJson? value
      select := ← optional "select" (Select.ofJson? fuel) value
      list := ← optional "list" (listOf (TableRef.ofJson? fuel)) value
      join := ← optional "join" (Join.ofJson? fuel) value }

/-- A join from its object. -/
def Join.ofJson? : (fuel : Nat) → Value → Option Join
  | 0, _ => none
  | fuel + 1, value => do
    let value ← record ["left", "right", "condition", "kind"] value
    return {
      left := ← required "left" (TableRef.ofJson? fuel) value
      right := ← required "right" (TableRef.ofJson? fuel) value
      condition := ← optional "condition" (Expr.ofJson? fuel) value
      kind := ← required "kind" readTag value }

/-- A grouping from its object. -/
def GroupBy.ofJson? : (fuel : Nat) → Value → Option GroupBy
  | 0, _ => none
  | fuel + 1, value => do
    let value ← record ["columns", "having"] value
    return {
      columns := ← optional "columns" (listOf (Expr.ofJson? fuel)) value
      having := ← optional "having" (Expr.ofJson? fuel) value }

/-- A sort key from its object. -/
def Order.ofJson? : (fuel : Nat) → Value → Option Order
  | 0, _ => none
  | fuel + 1, value => do
    let value ← record ["kind", "expr"] value
    return {
      kind := ← required "kind" readTag value
      expr := ← required "expr" (Expr.ofJson? fuel) value }

/-- A named subquery from its object. -/
def With.ofJson? : (fuel : Nat) → Value → Option With
  | 0, _ => none
  | fuel + 1, value => do
    let value ← record ["alias", "select"] value
    return {
      label := ← required "alias" Value.text? value
      select := ← required "select" (Select.ofJson? fuel) value }

/-- A limit from its object. -/
def Limit.ofJson? : (fuel : Nat) → Value → Option Limit
  | 0, _ => none
  | fuel + 1, value => do
    let value ← record ["limit", "offset"] value
    return {
      limit := ← optional "limit" (Expr.ofJson? fuel) value
      offset := ← optional "offset" (Expr.ofJson? fuel) value }

/-- A set operation from its object. -/
def SetOperation.ofJson? : (fuel : Nat) → Value → Option SetOperation
  | 0, _ => none
  | fuel + 1, value => do
    let value ← record ["kind", "is_all", "nested_select", "result_order", "result_limit"] value
    return {
      kind := ← required "kind" readTag value
      isAll := ← required "is_all" readBoolean value
      nestedSelect := ← required "nested_select" (Select.ofJson? fuel) value
      resultOrder := ← optional "result_order" (listOf (Order.ofJson? fuel)) value
      resultLimit := ← optional "result_limit" (Limit.ofJson? fuel) value }

end

/-- The base of a statement that has nothing else. -/
def onlyBase (fuel : Nat) (value : Value) : Option Base :=
  (record ["base"] value).bind (required "base" (Base.ofJson? fuel))

/-- A statement from the object that names its form. -/
def Statement.ofJson? (fuel : Nat) (value : Value) : Option Statement := do
  let (form, body) ← onlyMember value
  match form with
  | "Select" => return .select (← Select.ofJson? fuel body)
  | "Insert" => return .insert (← onlyBase fuel body)
  | "Update" => return .update (← onlyBase fuel body)
  | "Delete" => return .delete (← onlyBase fuel body)
  | "Other" => return .other (← Base.ofJson? fuel body)
  | _ => none

/-- A message and its place from their object. -/
def SyntaxError.ofJson? (value : Value) : Option SyntaxError := do
  let value ← record ["message", "line", "column"] value
  return {
    message := ← required "message" Value.text? value
    line := ← required "line" readInt32 value
    column := ← required "column" readInt32 value }

/-- A result from the object that names its form. Every record lies deeper in the value than the
one it belongs to, so the depth of the value is fuel enough. -/
def ParseResult.ofJson? (value : Value) : Option ParseResult := do
  let (form, body) ← onlyMember value
  match form with
  | "Valid" => return .valid (← listOf (Statement.ofJson? value.depth) body)
  | "Invalid" => return .invalid (← SyntaxError.ofJson? body)
  | _ => none

end SqlImage.Tree
