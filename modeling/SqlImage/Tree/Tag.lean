/-
This file holds the tags of the tree: closed lists of names, each with an ordinal
by its place in the list and with the name of the constant that stands for it in
an image. A number that is no place in the list is no tag.
-/

namespace SqlImage.Tree

/-! ### Enumerations -/

/-- A closed list of tags. -/
class Tag (α : Type) extends Inhabited α where
  /-- The name of the list. -/
  title : String
  /-- The tags in the order of their ordinals, each with its name and its constant. -/
  entries : List (α × String × String)

namespace Tag

variable {α : Type} [Tag α]

/-- The tags in the order of their ordinals. -/
def all (α : Type) [Tag α] : List α := (entries : List (α × String × String)).map (·.1)

/-- The constants in the order of their ordinals. -/
def constants (α : Type) [Tag α] : List String := (entries : List (α × String × String)).map (·.2.2)

/-- The place of a tag in its list. -/
def ordinal [DecidableEq α] (tag : α) : Nat := (all α).idxOf tag

/-- The tag at a place of its list. -/
def ofOrdinal? (ordinal : Nat) : Option α := (all α)[ordinal]?

/-- The name of a tag. -/
def name [DecidableEq α] (tag : α) : String :=
  ((entries.find? (·.1 = tag)).map (·.2.1)).getD ""

/-- The constant of a tag. -/
def constant [DecidableEq α] (tag : α) : String :=
  ((entries.find? (·.1 = tag)).map (·.2.2)).getD ""

/-- The tag with a given name. -/
def ofName? (name : String) : Option α :=
  (entries.find? (·.2.1 = name)).map (·.1)

end Tag

/-! ### ExprType -/

/-- What an expression is. -/
inductive ExprKind where
  | literalFloat
  | literalString
  | literalInt
  | literalNull
  | star
  | parameter
  | columnRef
  | functionRef
  | operator
  | select
  | hint
  | array
  | arrayIndex
  | datetimeField
deriving DecidableEq, Repr

instance : Tag ExprKind where
  default := .literalNull
  title := "ExprType"
  entries := [
    (.literalFloat, "LiteralFloat", "kExprLiteralFloat"),
    (.literalString, "LiteralString", "kExprLiteralString"),
    (.literalInt, "LiteralInt", "kExprLiteralInt"),
    (.literalNull, "LiteralNull", "kExprLiteralNull"),
    (.star, "Star", "kExprStar"),
    (.parameter, "Parameter", "kExprParameter"),
    (.columnRef, "ColumnRef", "kExprColumnRef"),
    (.functionRef, "FunctionRef", "kExprFunctionRef"),
    (.operator, "Operator", "kExprOperator"),
    (.select, "Select", "kExprSelect"),
    (.hint, "Hint", "kExprHint"),
    (.array, "Array", "kExprArray"),
    (.arrayIndex, "ArrayIndex", "kExprArrayIndex"),
    (.datetimeField, "DatetimeField", "kExprDatetimeField")]

/-! ### DatetimeField -/

/-- A field of a date or a time, or none. -/
inductive DatetimeField where
  | none
  | second
  | minute
  | hour
  | day
  | month
  | year
deriving DecidableEq, Repr

instance : Tag DatetimeField where
  default := .none
  title := "DatetimeField"
  entries := [
    (.none, "None", "kDatetimeNone"),
    (.second, "Second", "kDatetimeSecond"),
    (.minute, "Minute", "kDatetimeMinute"),
    (.hour, "Hour", "kDatetimeHour"),
    (.day, "Day", "kDatetimeDay"),
    (.month, "Month", "kDatetimeMonth"),
    (.year, "Year", "kDatetimeYear")]

/-! ### OperatorType -/

/-- The operator of an operator expression, or none. -/
inductive Operator where
  | none
  | between
  | case
  | caseBranch
  | plus
  | minus
  | asterisk
  | slash
  | percentage
  | caret
  | equals
  | notEquals
  | less
  | lessEq
  | greater
  | greaterEq
  | like
  | notLike
  | iLike
  | and
  | or
  | isIn
  | concat
  | not
  | unaryMinus
  | isNull
  | hasRow
deriving DecidableEq, Repr

instance : Tag Operator where
  default := .none
  title := "OperatorType"
  entries := [
    (.none, "None", "kOpNone"),
    (.between, "Between", "kOpBetween"),
    (.case, "Case", "kOpCase"),
    (.caseBranch, "CaseListElement", "kOpCaseListElement"),
    (.plus, "Plus", "kOpPlus"),
    (.minus, "Minus", "kOpMinus"),
    (.asterisk, "Asterisk", "kOpAsterisk"),
    (.slash, "Slash", "kOpSlash"),
    (.percentage, "Percentage", "kOpPercentage"),
    (.caret, "Caret", "kOpCaret"),
    (.equals, "Equals", "kOpEquals"),
    (.notEquals, "NotEquals", "kOpNotEquals"),
    (.less, "Less", "kOpLess"),
    (.lessEq, "LessEq", "kOpLessEq"),
    (.greater, "Greater", "kOpGreater"),
    (.greaterEq, "GreaterEq", "kOpGreaterEq"),
    (.like, "Like", "kOpLike"),
    (.notLike, "NotLike", "kOpNotLike"),
    (.iLike, "ILike", "kOpILike"),
    (.and, "And", "kOpAnd"),
    (.or, "Or", "kOpOr"),
    (.isIn, "In", "kOpIn"),
    (.concat, "Concat", "kOpConcat"),
    (.not, "Not", "kOpNot"),
    (.unaryMinus, "UnaryMinus", "kOpUnaryMinus"),
    (.isNull, "IsNull", "kOpIsNull"),
    (.hasRow, "Exists", "kOpExists")]

/-! ### StatementType -/

/-- What a statement does. -/
inductive StatementKind where
  | error
  | select
  | importData
  | insert
  | update
  | delete
  | create
  | drop
  | prepare
  | execute
  | exportData
  | rename
  | alter
  | showInfo
  | transaction
deriving DecidableEq, Repr

instance : Tag StatementKind where
  default := .error
  title := "StatementType"
  entries := [
    (.error, "Error", "kStmtError"),
    (.select, "Select", "kStmtSelect"),
    (.importData, "Import", "kStmtImport"),
    (.insert, "Insert", "kStmtInsert"),
    (.update, "Update", "kStmtUpdate"),
    (.delete, "Delete", "kStmtDelete"),
    (.create, "Create", "kStmtCreate"),
    (.drop, "Drop", "kStmtDrop"),
    (.prepare, "Prepare", "kStmtPrepare"),
    (.execute, "Execute", "kStmtExecute"),
    (.exportData, "Export", "kStmtExport"),
    (.rename, "Rename", "kStmtRename"),
    (.alter, "Alter", "kStmtAlter"),
    (.showInfo, "Show", "kStmtShow"),
    (.transaction, "Transaction", "kStmtTransaction")]

/-! ### JoinType -/

/-- How two tables are joined. -/
inductive JoinKind where
  | inner
  | full
  | left
  | right
  | cross
  | natural
deriving DecidableEq, Repr

instance : Tag JoinKind where
  default := .inner
  title := "JoinType"
  entries := [
    (.inner, "Inner", "kJoinInner"),
    (.full, "Full", "kJoinFull"),
    (.left, "Left", "kJoinLeft"),
    (.right, "Right", "kJoinRight"),
    (.cross, "Cross", "kJoinCross"),
    (.natural, "Natural", "kJoinNatural")]

/-! ### TableRefType -/

/-- What a table reference stands for. -/
inductive TableKind where
  | name
  | select
  | join
  | crossProduct
deriving DecidableEq, Repr

instance : Tag TableKind where
  default := .name
  title := "TableRefType"
  entries := [
    (.name, "Name", "kTableName"),
    (.select, "Select", "kTableSelect"),
    (.join, "Join", "kTableJoin"),
    (.crossProduct, "CrossProduct", "kTableCrossProduct")]

/-! ### OrderType -/

/-- The direction of a sort. -/
inductive SortOrder where
  | ascending
  | descending
deriving DecidableEq, Repr

instance : Tag SortOrder where
  default := .ascending
  title := "OrderType"
  entries := [
    (.ascending, "Asc", "kOrderAsc"),
    (.descending, "Desc", "kOrderDesc")]

/-! ### SetType -/

/-- How two results are combined as sets. -/
inductive SetKind where
  | union
  | intersect
  | except
deriving DecidableEq, Repr

instance : Tag SetKind where
  default := .union
  title := "SetType"
  entries := [
    (.union, "Union", "kSetUnion"),
    (.intersect, "Intersect", "kSetIntersect"),
    (.except, "Except", "kSetExcept")]

/-! ### The list of lists -/

/-- Every list of tags: its name and its constants in the order of their ordinals. -/
def enumerations : List (String × List String) := [
  (Tag.title ExprKind, Tag.constants ExprKind),
  (Tag.title DatetimeField, Tag.constants DatetimeField),
  (Tag.title Operator, Tag.constants Operator),
  (Tag.title StatementKind, Tag.constants StatementKind),
  (Tag.title JoinKind, Tag.constants JoinKind),
  (Tag.title TableKind, Tag.constants TableKind),
  (Tag.title SortOrder, Tag.constants SortOrder),
  (Tag.title SetKind, Tag.constants SetKind)]

end SqlImage.Tree
