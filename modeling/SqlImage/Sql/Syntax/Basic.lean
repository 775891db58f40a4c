/-
This file holds the syntax of SQL as it is parsed. What a tree of results can
hold has a form of its own. Every other construct is a *phrase*: its words as they
are printed, with the operands standing between them, so that nothing that was
written in it is lost.
-/

import SqlImage.Sql.Token
import SqlImage.Tree.Tag

namespace SqlImage.Sql

/-! ### Names -/

/-- A name, and the quote it was written in if any. -/
structure Ident where
  value : String
  quote : Option Char
deriving DecidableEq, Repr

/-- The name that a table goes by, with names for its columns. -/
structure TableAlias where
  name : Ident
  columns : List Ident
deriving DecidableEq, Repr

/-! ### Values and operators -/

/-- A value written out. -/
inductive Literal where
  | number (digits : String) (long : Bool)
  | string (style : StringStyle) (content : String)
  | dollarString (tag : Option String) (content : String)
  | boolean (value : Bool)
  | null
  /-- A place for a value that is given later. -/
  | placeholder (name : String)
deriving DecidableEq, Repr

/-- Operators with one operand. The factorial stands behind its operand. -/
inductive UnaryOperator where
  | not
  | minus
  | plus
  | factorial
deriving DecidableEq, Repr

/-- Operators with two operands. -/
inductive BinaryOperator where
  | plus
  | minus
  | multiply
  | divide
  | modulo
  | caret
  | concat
  | equal
  | notEqual
  | less
  | lessEqual
  | greater
  | greaterEqual
  | and
  | or
  /-- Any other operator, as it is printed. -/
  | other (written : String)
deriving DecidableEq, Repr

/-- How the value of an interval is counted. A field is told by its keyword. -/
structure IntervalUnit where
  leading : Option Keyword
  leadingPrecision : Option Nat
  last : Option Keyword
  fractionalPrecision : Option Nat
deriving DecidableEq

/-- What a function does with null values. -/
inductive NullTreatment where
  | ignoreNulls
  | respectNulls
deriving DecidableEq, Repr

/-- Whether repeated rows of a set operation stay, and how its columns are matched. -/
inductive SetQuantifier where
  | unmarked
  | all
  | distinct
  | byName
  | allByName
  | distinctByName
deriving DecidableEq, Repr

/-- The joins that may have a constraint. -/
inductive JoinSide where
  | inner
  | left
  | right
  | full
  | leftSemi
  | rightSemi
  | leftAnti
  | rightAnti
deriving DecidableEq, Repr

/-- The word behind a number of rows. -/
inductive RowsWord where
  | unmarked
  | row
  | rows
deriving DecidableEq, Repr

/-! ### Expressions and queries -/

mutual

/-- A part of a phrase: printed words, or something that was written between them. -/
inductive Piece where
  | text (written : String)
  | expr (expr : Expr)
  | query (query : Query)
  | source (source : FromItem)
  | argument (argument : Argument)
  | item (item : SelectItem)
  | order (order : OrderItem)

/-- An expression. -/
inductive Expr where
  /-- A column, with the names that lead to it in front. -/
  | column (path : List Ident)
  /-- All columns, which the grammar allows in some places only. -/
  | star
  | qualifiedStar (name : List Ident)
  | literal (value : Literal)
  | nested (inner : Expr)
  | unary (operator : UnaryOperator) (operand : Expr)
  | binary (operator : BinaryOperator) (left right : Expr)
  | isNull (negated : Bool) (operand : Expr)
  | like (caseless negated : Bool) (operand pattern : Expr) (escape : Option Char)
  | between (negated : Bool) (operand low high : Expr)
  | inList (negated : Bool) (operand : Expr) (list : List Expr)
  | inQuery (negated : Bool) (operand : Expr) (query : Query)
  | hasRow (negated : Bool) (query : Query)
  | subquery (query : Query)
  | call (call : Call)
  | case (operand : Option Expr) (branches : List Branch) (otherwise : Option Expr)
  | extract (field : Keyword) (operand : Expr)
  | interval (value : Expr) (unit : IntervalUnit)
  /-- An array, with or without the word in front of its brackets. -/
  | array (named : Bool) (elements : List Expr)
  | index (operand : Expr) (subscripts : List Expr)
  | phrase (pieces : List Piece)

/-- One condition of a choice and its result. -/
structure Branch where
  condition : Expr
  result : Expr

/-- A function and what it is applied to. An absent window is an empty phrase. A bare call is
written without parentheses. -/
structure Call where
  name : List Ident
  distinct : Bool
  arguments : List Argument
  order : List OrderItem
  filter : Option Expr
  nullTreatment : Option NullTreatment
  window : List Piece
  bare : Bool

/-- One argument of a function, with its name if it is given by name. -/
structure Argument where
  name : Option Ident
  value : ArgumentValue

/-- What is given to a function: an expression or all columns. -/
inductive ArgumentValue where
  | expr (expr : Expr)
  | star
  | qualifiedStar (name : List Ident)

/-- One key of a sort. -/
structure OrderItem where
  expr : Expr
  ascending : Option Bool
  nullsFirst : Option Bool

/-- A query: its body and the clauses around it. Absent phrases are empty. -/
structure Query where
  withClause : Option With
  body : Body
  order : List OrderItem
  limit : Option Expr
  limitBy : List Expr
  offset : Option Expr
  offsetRows : RowsWord
  fetch : List Piece
  locks : List Piece

/-- The named queries in front of a query. -/
structure With where
  recursive : Bool
  tables : List NamedQuery

/-- A query with a name, and the table it may be read from. -/
structure NamedQuery where
  label : TableAlias
  query : Query
  source : Option Ident

/-- The body of a query. -/
inductive Body where
  | select (select : Select)
  | query (query : Query)
  | operation (operator : Tree.SetKind) (quantifier : SetQuantifier) (left right : Body)
  | values (pieces : List Piece)
  /-- A table, or a statement that gives rows. -/
  | phrase (pieces : List Piece)

/-- A select with its clauses. Absent phrases are empty. -/
structure Select where
  distinct : Distinct
  top : List Piece
  items : List SelectItem
  into : List Piece
  tables : List FromItem
  lateralViews : List Piece
  selection : Option Expr
  grouping : Grouping
  /-- The clauses CLUSTER BY, DISTRIBUTE BY and SORT BY. -/
  distribution : List Piece
  having : Option Expr
  windows : List Piece
  qualify : List Piece

/-- Whether equal rows are left out. -/
inductive Distinct where
  | no
  | rows
  | on (keys : List Expr)

/-- What the rows of a select are grouped by. -/
inductive Grouping where
  | all
  | keys (keys : List Expr)

/-- One item of a select list. The options of a star are a phrase. -/
inductive SelectItem where
  | expr (expr : Expr) (label : Option Ident)
  | star (options : List Piece)
  | qualifiedStar (name : List Ident) (options : List Piece)

/-- A table and what is joined to it, from left to right. -/
structure FromItem where
  factor : TableFactor
  joins : List Join

/-- One joined table. -/
structure Join where
  operator : JoinOperator
  factor : TableFactor

/-- How a table is joined. -/
inductive JoinOperator where
  | constrained (side : JoinSide) (constraint : JoinConstraint)
  | cross
  | crossApply
  | outerApply

/-- The condition of a join. -/
inductive JoinConstraint where
  | on (condition : Expr)
  | using (columns : List Ident)
  | natural
  | unmarked

/-- Anything that stands for a table. In a phrase the alias stands in the middle. -/
inductive TableFactor where
  | table (name : List Ident) (partitions : List Ident) (arguments : Option (List Argument))
      (label : Option TableAlias) (hints : List Expr)
  | derived (lateral : Bool) (query : Query) (label : Option TableAlias)
  | nested (inner : FromItem) (label : Option TableAlias)
  | phrase (before : List Piece) (label : Option TableAlias) (after : List Piece)

end

/-! ### Statements -/

/-- A statement. Of all but queries only the kind is kept. -/
inductive Statement where
  | query (query : Query)
  | insert
  | update
  | delete
  | create
  | drop
  | prepare
  | execute
  | copyTo
  | copyFrom
  | rename
  | alter
  | showInfo
  | transaction
  /-- Any other statement, by the first word it is printed with. -/
  | other (word : String)

end SqlImage.Sql
