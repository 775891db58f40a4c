/-
This file compares two trees by value: every tag, flag, number and text has to
agree, absent and empty lists differ, and floating-point numbers are compared by
value, so that the two zeros are equal and what is not a number equals nothing.
-/

import SqlImage.Tree.Basic

namespace SqlImage.Tree

mutual

/-- Whether two bases agree. -/
def Base.same : Base → Base → Bool
  | ⟨kind, stringLength, hints⟩, other =>
    kind = other.kind && stringLength = other.stringLength && optionalSame hints other.hints
termination_by structural first => first

/-- Whether two selects agree. -/
def Select.same : Select → Select → Bool
  | ⟨base, fromTable, selectDistinct, selectList, whereClause, groupBy, setOperations, order,
      withDescriptions, limit⟩, other =>
    base.same other.base &&
    (match fromTable, other.fromTable with
      | none, none => true
      | some first, some second => first.same second
      | _, _ => false) &&
    selectDistinct = other.selectDistinct &&
    optionalSame selectList other.selectList &&
    (match whereClause, other.whereClause with
      | none, none => true
      | some first, some second => first.same second
      | _, _ => false) &&
    (match groupBy, other.groupBy with
      | none, none => true
      | some first, some second => first.same second
      | _, _ => false) &&
    (match setOperations, other.setOperations with
      | none, none => true
      | some first, some second => setOperationsSame first second
      | _, _ => false) &&
    optionalOrdersSame order other.order &&
    (match withDescriptions, other.withDescriptions with
      | none, none => true
      | some first, some second => withsSame first second
      | _, _ => false) &&
    optionalLimitSame limit other.limit
termination_by structural first => first

/-- Whether two expressions agree. -/
def Expr.same : Expr → Expr → Bool
  | ⟨kind, expr, expr2, exprList, select, name, table, label, fval, ival, ival2, datetimeField,
      isBoolLiteral, opType, distinct⟩, other =>
    kind = other.kind &&
    (match expr, other.expr with
      | none, none => true
      | some first, some second => first.same second
      | _, _ => false) &&
    (match expr2, other.expr2 with
      | none, none => true
      | some first, some second => first.same second
      | _, _ => false) &&
    optionalSame exprList other.exprList &&
    (match select, other.select with
      | none, none => true
      | some first, some second => first.same second
      | _, _ => false) &&
    name = other.name && table = other.table && label = other.label &&
    fval.same other.fval && ival = other.ival && ival2 = other.ival2 &&
    datetimeField = other.datetimeField && isBoolLiteral = other.isBoolLiteral &&
    opType = other.opType && distinct = other.distinct
termination_by structural first => first

/-- Whether two lists of expressions agree. -/
def exprsSame : List Expr → List Expr → Bool
  | [], [] => true
  | first :: firsts, second :: seconds => first.same second && exprsSame firsts seconds
  | _, _ => false
termination_by structural first => first

/-- Whether two lists of expressions are both absent or agree. -/
def optionalSame : Option (List Expr) → Option (List Expr) → Bool
  | none, none => true
  | some first, some second => exprsSame first second
  | _, _ => false
termination_by structural first => first

/-- Whether two table references agree. -/
def TableRef.same : TableRef → TableRef → Bool
  | ⟨kind, schema, name, label, select, list, join⟩, other =>
    kind = other.kind && schema = other.schema && name = other.name && label = other.label &&
    (match select, other.select with
      | none, none => true
      | some first, some second => first.same second
      | _, _ => false) &&
    (match list, other.list with
      | none, none => true
      | some first, some second => tableRefsSame first second
      | _, _ => false) &&
    (match join, other.join with
      | none, none => true
      | some first, some second => first.same second
      | _, _ => false)
termination_by structural first => first

/-- Whether two lists of table references agree. -/
def tableRefsSame : List TableRef → List TableRef → Bool
  | [], [] => true
  | first :: firsts, second :: seconds => first.same second && tableRefsSame firsts seconds
  | _, _ => false
termination_by structural first => first

/-- Whether two joins agree. -/
def Join.same : Join → Join → Bool
  | ⟨left, right, condition, kind⟩, other =>
    left.same other.left && right.same other.right &&
    (match condition, other.condition with
      | none, none => true
      | some first, some second => first.same second
      | _, _ => false) &&
    kind = other.kind
termination_by structural first => first

/-- Whether two groupings agree. -/
def GroupBy.same : GroupBy → GroupBy → Bool
  | ⟨columns, having⟩, other =>
    optionalSame columns other.columns &&
    (match having, other.having with
      | none, none => true
      | some first, some second => first.same second
      | _, _ => false)
termination_by structural first => first

/-- Whether two sort keys agree. -/
def Order.same : Order → Order → Bool
  | ⟨kind, expr⟩, other => kind = other.kind && expr.same other.expr
termination_by structural first => first

/-- Whether two lists of sort keys agree. -/
def ordersSame : List Order → List Order → Bool
  | [], [] => true
  | first :: firsts, second :: seconds => first.same second && ordersSame firsts seconds
  | _, _ => false
termination_by structural first => first

/-- Whether two lists of sort keys are both absent or agree. -/
def optionalOrdersSame : Option (List Order) → Option (List Order) → Bool
  | none, none => true
  | some first, some second => ordersSame first second
  | _, _ => false
termination_by structural first => first

/-- Whether two named subqueries agree. -/
def With.same : With → With → Bool
  | ⟨label, select⟩, other => label = other.label && select.same other.select
termination_by structural first => first

/-- Whether two lists of named subqueries agree. -/
def withsSame : List With → List With → Bool
  | [], [] => true
  | first :: firsts, second :: seconds => first.same second && withsSame firsts seconds
  | _, _ => false
termination_by structural first => first

/-- Whether two limits agree. -/
def Limit.same : Limit → Limit → Bool
  | ⟨limit, offset⟩, other =>
    (match limit, other.limit with
      | none, none => true
      | some first, some second => first.same second
      | _, _ => false) &&
    (match offset, other.offset with
      | none, none => true
      | some first, some second => first.same second
      | _, _ => false)
termination_by structural first => first

/-- Whether two limits are both absent or agree. -/
def optionalLimitSame : Option Limit → Option Limit → Bool
  | none, none => true
  | some first, some second => first.same second
  | _, _ => false
termination_by structural first => first

/-- Whether two set operations agree. -/
def SetOperation.same : SetOperation → SetOperation → Bool
  | ⟨kind, isAll, nestedSelect, resultOrder, resultLimit⟩, other =>
    kind = other.kind && isAll = other.isAll && nestedSelect.same other.nestedSelect &&
    optionalOrdersSame resultOrder other.resultOrder &&
    optionalLimitSame resultLimit other.resultLimit
termination_by structural first => first

/-- Whether two lists of set operations agree. -/
def setOperationsSame : List SetOperation → List SetOperation → Bool
  | [], [] => true
  | first :: firsts, second :: seconds => first.same second && setOperationsSame firsts seconds
  | _, _ => false
termination_by structural first => first

end

/-- Whether two statements have one form and agree. -/
def Statement.same : Statement → Statement → Bool
  | .select first, .select second => first.same second
  | .insert first, .insert second => first.same second
  | .update first, .update second => first.same second
  | .delete first, .delete second => first.same second
  | .other first, .other second => first.same second
  | _, _ => false

/-- Whether two lists of statements agree. -/
def statementsSame : List Statement → List Statement → Bool
  | [], [] => true
  | first :: firsts, second :: seconds => first.same second && statementsSame firsts seconds
  | _, _ => false

/-- Whether two results agree. -/
def ParseResult.same : ParseResult → ParseResult → Bool
  | .valid first, .valid second => statementsSame first second
  | .invalid first, .invalid second => first = second
  | _, _ => false

end SqlImage.Tree
