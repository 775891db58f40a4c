/-
This file turns the leaves of SQL into parts of a tree: numbers, other values,
operators, fields of dates, aliases and names. Placeholders are numbered, so a
leaf may need the number of placeholders before it.
-/

import SqlImage.Lowering.Unsupported
import SqlImage.Number.Decimal
import SqlImage.Sql.Syntax.Print
import SqlImage.Tree.Basic

namespace SqlImage

/-- Making a tree: the state is the number of placeholders so far, and a construct that no tree
can hold ends it. -/
abbrev Lowering (α : Type) : Type := StateT Nat (Except Unsupported) α

namespace Lowering

/-- Refuses a construct. -/
def refuse {α : Type} (cause : Unsupported) : Lowering α := throw cause

/-- The number of the next placeholder. -/
def nextParameter : Lowering Nat := do
  let index ← get
  set (index + 1)
  return index

/-! ### Values -/

/-- The integer that digits stand for, if it fits 64 bits with a sign. -/
def smallInteger? (digits : String) : Option Int64 := do
  let value ← Decimal.digits? digits.toList
  if Int.ofNat value ≤ Int64.maxValue.toInt then some (Int64.ofNat value) else none

/-- A number written out. What is no integer of 64 bits is a floating-point number. -/
def number (digits : String) : Lowering Tree.Expr := do
  match smallInteger? digits with
  | some value => return .literalInt value
  | none =>
    match Decimal.ofText? digits.toList with
    | some value => return .literalFloat (.ofDecimal false value.digits value.power)
    | none => refuse (.number digits)

/-- A value written out. -/
def literal (value : Sql.Literal) : Lowering Tree.Expr := do
  match value with
  | .number digits _ => number digits
  | .string .plain content => return .literalString content
  | .string .escaped content => return .literalString content
  | .string .national content => return .literalString content
  | .boolean value => return .literalBool value
  | .null => return .literalNull
  | .placeholder _ => return .parameter (Int64.ofNat (← nextParameter))
  | other => refuse (.literal other.print)

/-- The subscript of an array, which must be an integer written out. -/
def subscript (index : Sql.Expr) : Lowering Int64 :=
  match index with
  | .literal (.number digits _) =>
    match smallInteger? digits with
    | some value => return value
    | none => refuse (.subscriptNumber digits)
  | other => refuse (.subscript other.print)

/-! ### Operators and fields -/

/-- The operator of a tree that an operator with two operands is. -/
def binaryOperator (operator : Sql.BinaryOperator) : Lowering Tree.Operator :=
  match operator with
  | .plus => return .plus
  | .minus => return .minus
  | .multiply => return .asterisk
  | .divide => return .slash
  | .modulo => return .percentage
  | .caret => return .caret
  | .concat => return .concat
  | .equal => return .equals
  | .notEqual => return .notEquals
  | .less => return .less
  | .lessEqual => return .lessEq
  | .greater => return .greater
  | .greaterEqual => return .greaterEq
  | .and => return .and
  | .or => return .or
  | .other written => refuse (.operator written)

/-- The field of a date that a keyword names. -/
def timeField (field : Sql.Keyword) : Lowering Tree.DatetimeField :=
  match field with
  | .SECOND => return .second
  | .MINUTE => return .minute
  | .HOUR => return .hour
  | .DAY => return .day
  | .MONTH => return .month
  | .YEAR => return .year
  | other => refuse (.timeField other.spelling)

/-- The field that an interval is counted in. -/
def intervalField (unit : Sql.IntervalUnit) : Lowering Tree.DatetimeField :=
  match unit with
  | ⟨some field, none, none, none⟩ => timeField field
  | ⟨none, none, none, none⟩ => refuse .intervalWithoutUnit
  | _ => refuse .intervalQualifier

/-- An expression, negated if so wanted. -/
def negate (negated : Bool) (expr : Tree.Expr) : Tree.Expr :=
  if negated then .unary .not expr else expr

/-! ### Names -/

/-- The last part of a name. -/
def lastPart (name : List Sql.Ident) : Option String := name.getLast?.map Sql.Ident.value

/-- A column by the last two parts of its name. -/
def column : List Sql.Ident → Lowering Tree.Expr
  | [] => refuse .emptyName
  | [name] => return .columnRef name.value none
  | [table, name] => return .columnRef name.value (some table.value)
  | _ :: rest => column rest

/-- The alias of a table. -/
def label (label : Sql.TableAlias) : Tree.Alias where
  name := label.name.value
  columns :=
    match label.columns with
    | [] => none
    | columns => some (columns.map Sql.Ident.value)

/-- A table by its name, which has one or two parts. -/
def tableName (name : List Sql.Ident) : Lowering Tree.TableRef :=
  match name with
  | [table] => return .named none table.value
  | [schema, table] => return .named (some schema.value) table.value
  | other => refuse (.tableName (Sql.printName other))

/-- The kind of a join by its operator, unless no tree can hold such a join. -/
def joinKind (operator : Sql.JoinOperator) : Lowering Tree.JoinKind :=
  match operator with
  | .constrained .inner _ => return .inner
  | .constrained .left _ => return .left
  | .constrained .right _ => return .right
  | .constrained .full _ => return .full
  | .cross => return .cross
  | _ => refuse .joinOperator

/-- The kind of a set operation is kept; of its quantifier only whether all rows stay. -/
def keepsAll (quantifier : Sql.SetQuantifier) : Lowering Bool :=
  match quantifier with
  | .all => return true
  | .distinct => return false
  | .unmarked => return false
  | other => refuse (.setQuantifier other.print)

end Lowering

end SqlImage
