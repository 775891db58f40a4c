/-
This file holds the tree that a parse gives: selects with all their clauses, other
statements by their kind only, or a message with its place. A list may be absent
or present and empty, and the two are told apart. The expressions share one
record, of which each kind fills the fields it needs; the functions that build
them leave the others empty.
-/

import SqlImage.Number.Double
import SqlImage.Tree.Tag

namespace SqlImage.Tree

/-! ### Nodes -/

/-- The name that a table goes by, with names for its columns. -/
structure Alias where
  name : String
  columns : Option (List String)
deriving DecidableEq, Repr

mutual

/-- What every statement has: its kind, the number of its characters in the text, and hints. -/
structure Base where
  kind : StatementKind
  stringLength : UInt64
  hints : Option (List Expr)

/-- A select, with the set operations that follow it. -/
structure Select where
  base : Base
  fromTable : Option TableRef
  selectDistinct : Bool
  selectList : Option (List Expr)
  whereClause : Option Expr
  groupBy : Option GroupBy
  setOperations : Option (List SetOperation)
  order : Option (List Order)
  withDescriptions : Option (List With)
  limit : Option Limit

/-- An expression. The kind and the operator decide which of the fields count. -/
structure Expr where
  kind : ExprKind
  expr : Option Expr
  expr2 : Option Expr
  exprList : Option (List Expr)
  select : Option Select
  name : Option String
  table : Option String
  label : Option String
  fval : Double
  ival : Int64
  ival2 : Int64
  datetimeField : DatetimeField
  isBoolLiteral : Bool
  opType : Operator
  distinct : Bool

/-- A table by name, a subquery, a join, or several tables side by side. -/
structure TableRef where
  kind : TableKind
  schema : Option String
  name : Option String
  label : Option Alias
  select : Option Select
  list : Option (List TableRef)
  join : Option Join

/-- Two joined tables. -/
structure Join where
  left : TableRef
  right : TableRef
  condition : Option Expr
  kind : JoinKind

/-- The grouping of a select and the condition on its groups. -/
structure GroupBy where
  columns : Option (List Expr)
  having : Option Expr

/-- One key of a sort. -/
structure Order where
  kind : SortOrder
  expr : Expr

/-- A named subquery that stands before a select. -/
structure With where
  label : String
  select : Select

/-- How many rows are wanted, and how many of the first are left out. -/
structure Limit where
  limit : Option Expr
  offset : Option Expr

/-- A set operation: what is combined with the rows so far, and how the combined rows are
sorted and limited. -/
structure SetOperation where
  kind : SetKind
  isAll : Bool
  nestedSelect : Select
  resultOrder : Option (List Order)
  resultLimit : Option Limit

end

/-- One statement of a text. -/
inductive Statement where
  | select (body : Select)
  | insert (base : Base)
  | update (base : Base)
  | delete (base : Base)
  | other (base : Base)

/-- What is wrong with a text, and where. -/
structure SyntaxError where
  message : String
  line : Int32
  column : Int32
deriving DecidableEq

/-- The statements of a text, or what is wrong with it. -/
inductive ParseResult where
  | valid (statements : List Statement)
  | invalid (error : SyntaxError)

/-! ### Statements -/

namespace Base

/-- A statement of unknown length without hints. -/
def ofKind (kind : StatementKind) : Base := ⟨kind, 0, none⟩

end Base

namespace Select

/-- A select without any clause. -/
def ofBase (base : Base) : Select where
  base
  fromTable := none
  selectDistinct := false
  selectList := none
  whereClause := none
  groupBy := none
  setOperations := none
  order := none
  withDescriptions := none
  limit := none

/-- A select without any clause and without a length. -/
def empty : Select := ofBase (.ofKind .select)

end Select

namespace Statement

/-- The statement of a given kind. Selects get no clause. -/
def ofBase (base : Base) : Statement :=
  match base.kind with
  | .select => .select (.ofBase base)
  | .insert => .insert base
  | .update => .update base
  | .delete => .delete base
  | _ => .other base

/-- What every statement has. -/
def base : Statement → Base
  | .select body => body.base
  | .insert base => base
  | .update base => base
  | .delete base => base
  | .other base => base

/-- The same statement with another length. -/
def withLength (length : UInt64) : Statement → Statement
  | .select body => .select { body with base := { body.base with stringLength := length } }
  | .insert base => .insert { base with stringLength := length }
  | .update base => .update { base with stringLength := length }
  | .delete base => .delete { base with stringLength := length }
  | .other base => .other { base with stringLength := length }

/-- The select that a statement is, if it is one. -/
def select? : Statement → Option Select
  | .select body => some body
  | _ => none

end Statement

namespace ParseResult

/-- Whether a text could be parsed. -/
def isValid : ParseResult → Bool
  | .valid _ => true
  | .invalid _ => false

/-- The statements, none if the text could not be parsed. -/
def statements : ParseResult → List Statement
  | .valid statements => statements
  | .invalid _ => []

end ParseResult

/-! ### Table references -/

namespace TableRef

/-- A table reference of a kind with nothing else in it. -/
def ofKind (kind : TableKind) : TableRef where
  kind
  schema := none
  name := none
  label := none
  select := none
  list := none
  join := none

/-- A table by its name. -/
def named (schema : Option String) (name : String) : TableRef :=
  { ofKind .name with schema, name := some name }

/-- A subquery as a table. -/
def subquery (select : Select) : TableRef := { ofKind .select with select := some select }

/-- A join as a table. -/
def ofJoin (join : Join) : TableRef := { ofKind .join with join := some join }

/-- Several tables side by side. -/
def crossProduct (list : List TableRef) : TableRef :=
  { ofKind .crossProduct with list := some list }

end TableRef

/-! ### Expressions -/

namespace Expr

/-- An expression of a kind with nothing else in it. -/
def ofKind (kind : ExprKind) : Expr where
  kind
  expr := none
  expr2 := none
  exprList := none
  select := none
  name := none
  table := none
  label := none
  fval := .zero
  ival := 0
  ival2 := 0
  datetimeField := .none
  isBoolLiteral := false
  opType := .none
  distinct := false

/-- A floating-point number. -/
def literalFloat (value : Double) : Expr := { ofKind .literalFloat with fval := value }

/-- A string. -/
def literalString (value : String) : Expr := { ofKind .literalString with name := some value }

/-- An integer. -/
def literalInt (value : Int64) : Expr := { ofKind .literalInt with ival := value }

/-- A truth value, kept as the integer one or zero. -/
def literalBool (value : Bool) : Expr :=
  { literalInt (if value then 1 else 0) with isBoolLiteral := true }

/-- The null value. -/
def literalNull : Expr := ofKind .literalNull

/-- All columns, of one table if it is named. -/
def star (table : Option String) : Expr := { ofKind .star with table }

/-- A parameter by its number. -/
def parameter (index : Int64) : Expr := { ofKind .parameter with ival := index }

/-- A column. -/
def columnRef (name : String) (table : Option String) : Expr :=
  { ofKind .columnRef with name := some name, table }

/-- A function and its arguments. -/
def functionRef (name : String) (arguments : List Expr) (distinct : Bool) : Expr :=
  { ofKind .functionRef with name := some name, exprList := some arguments, distinct }

/-- An operator without its operands. -/
def operator (opType : Operator) : Expr := { ofKind .operator with opType }

/-- An operator with one operand. -/
def unary (opType : Operator) (expr : Expr) : Expr := { operator opType with expr := some expr }

/-- An operator with two operands. -/
def binary (opType : Operator) (left right : Expr) : Expr :=
  { operator opType with expr := some left, expr2 := some right }

/-- A test for lying between two bounds. -/
def between (expr low high : Expr) : Expr :=
  { operator .between with expr := some expr, exprList := some [low, high] }

/-- A test for being in a list. -/
def inList (expr : Expr) (list : List Expr) : Expr :=
  { operator .isIn with expr := some expr, exprList := some list }

/-- A subquery as a value. -/
def subquery (select : Select) : Expr := { ofKind .select with select := some select }

/-- A test for being among the rows of a subquery. -/
def inSelect (expr : Expr) (select : Select) : Expr := binary .isIn expr (subquery select)

/-- A test for a subquery having a row. -/
def hasRow (select : Select) : Expr := { operator .hasRow with select := some select }

/-- A choice by conditions, each of them with its result. -/
def case (operand : Option Expr) (branches : List Expr) (otherwise : Option Expr) : Expr :=
  { operator .case with expr := operand, expr2 := otherwise, exprList := some branches }

/-- One condition of a choice and its result. -/
def caseBranch (condition result : Expr) : Expr := binary .caseBranch condition result

/-- An array of values. -/
def array (elements : List Expr) : Expr := { ofKind .array with exprList := some elements }

/-- An element of an array. -/
def arrayIndex (expr : Expr) (index : Int64) : Expr :=
  { ofKind .arrayIndex with expr := some expr, ival := index }

/-- A field taken out of a date or a time. -/
def extract (field : DatetimeField) (expr : Expr) : Expr :=
  { ofKind .functionRef with name := some "EXTRACT", expr := some expr, datetimeField := field }

/-- A span of time: a value counted in a field. -/
def interval (field : DatetimeField) (value : Expr) : Expr :=
  { ofKind .datetimeField with expr := some value, datetimeField := field }

/-- A hint and its arguments, if it has any. -/
def hint (name : String) (arguments : Option (List Expr)) : Expr :=
  { ofKind .hint with name := some name, exprList := arguments }

/-- The same expression under another name. -/
def withAlias (label : String) (expr : Expr) : Expr := { expr with label := some label }

/-- Whether an expression is a given operator. -/
def isOperator (opType : Operator) (expr : Expr) : Bool :=
  expr.kind = .operator && expr.opType = opType

/-- The operator that an expression is, if it is one. -/
def operator? (expr : Expr) : Option Operator :=
  (Tag.all Operator).find? (expr.isOperator ·)

end Expr

end SqlImage.Tree
