/-
This file says what an expression means, twice: as it was written, and as a tree.
Both read it with an interpretation, which gives any value to the leaves and any
function to the operators, so that two expressions mean the same under all of them
only if they are built in the same way. A written expression is read from left to
right, because a placeholder stands for the parameter whose number is that of the
placeholders before it, and a number for the value of its digits. A tree is read by its
kinds, its operators and its fields, and means nothing where a field is missing.
-/

import SqlImage.Lowering.Query
import SqlImage.Proofs.Numeral

namespace SqlImage

/-! ### Interpretations -/

/-- What the parts of an expression stand for. A number is an integer of 64 bits or the nearest
floating-point number, a column goes by the last two parts of its name, and a function by its name
in one text. Subqueries stand for whatever their trees are given. -/
structure Interpretation (Value : Type) where
  integer : Int → Value
  float : Double → Value
  text : String → Value
  truth : Bool → Value
  null : Value
  parameter : (index : Int64) → Value
  column : (table : Option String) → (name : String) → Value
  star : (table : Option String) → Value
  not : Value → Value
  negative : Value → Value
  isNull : Value → Value
  binary : Sql.BinaryOperator → Value → Value → Value
  like : (operand pattern : Value) → Value
  notLike : (operand pattern : Value) → Value
  caselessLike : (operand pattern : Value) → Value
  between : (operand low high : Value) → Value
  inList : Value → List Value → Value
  inRows : Value → Tree.Select → Value
  hasRow : Tree.Select → Value
  rows : Tree.Select → Value
  call : (name : String) → (distinct : Bool) → (arguments : List Value) → Value
  /-- What an order of the rows, a filter or a treatment of null values makes of a call. -/
  adjusted : List Sql.OrderItem → Option Sql.Expr → Option Sql.NullTreatment → Value → Value
  /-- A choice: what is compared, the conditions with their results, and what is left. -/
  choice : Option Value → List (Value × Value) → Option Value → Value
  extract : (field : Sql.Keyword) → Value → Value
  interval : (field : Sql.Keyword) → Value → Value
  array : List Value → Value
  element : (array : Value) → (index : Int) → Value

/-- The meaning of something, if it has one. The state is the number of placeholders so far. -/
abbrev Meaning (Value : Type) : Type := StateT Nat Option Value

namespace Interpretation

variable {Value : Type} (interpretation : Interpretation Value)

/-- A value, or the opposite of it. -/
def denied (negated : Bool) (value : Value) : Value :=
  if negated then interpretation.not value else value

/-- What a column stands for, by the last two parts of its name. -/
def columnAt (path : List Sql.Ident) : Option Value :=
  match path.reverse with
  | [] => none
  | [name] => some (interpretation.column none name.value)
  | name :: table :: _ => some (interpretation.column (some table.value) name.value)

/-- What a star stands for, by the last part of the name in front of it. -/
def starBehind (name : List Sql.Ident) : Value :=
  interpretation.star (name.getLast?.map Sql.Ident.value)

end Interpretation

/-! ### Written expressions -/

namespace Sql

/-- Whether a function is applied to its arguments and nothing else: no order of the rows, no
filter and no treatment of null values. -/
def isUnadjusted (order : List OrderItem) (filter : Option Expr)
    (nullTreatment : Option NullTreatment) : Bool :=
  order.isEmpty && filter.isNone && nullTreatment.isNone

/-- The integer that a subscript is. -/
def Expr.subscript : Expr → Meaning Int
  | .literal (.number digits _) => liftM (integer? digits.toList)
  | _ => failure

/-- The rows of a subquery are told by its tree. -/
def Query.rows (query : Query) : Meaning Tree.Select := fun before => (query.lower before).toOption

section Written

variable {Value : Type} (interpretation : Interpretation Value)

/-- What a value written out stands for. A placeholder is counted. -/
noncomputable def Literal.value : Literal → Meaning Value
  | .number digits _ =>
    match integer? digits.toList with
    | some value => return interpretation.integer value
    | none => return interpretation.float (← liftM (float? digits.toList))
  | .string .plain content => return interpretation.text content
  | .string .escaped content => return interpretation.text content
  | .string .national content => return interpretation.text content
  | .boolean value => return interpretation.truth value
  | .null => return interpretation.null
  | .placeholder _ => do
    let index ← get
    set (index + 1)
    return interpretation.parameter (Int64.ofNat index)
  | _ => failure

mutual

/-- What an expression means. Parentheses and a sign that changes nothing leave it as it is, and a
negated test is the opposite of the test, save that an unlike pattern has a test of its own. -/
noncomputable def Expr.value : Expr → Meaning Value
  | .column path => liftM (interpretation.columnAt path)
  | .star => return interpretation.star none
  | .qualifiedStar name => return interpretation.starBehind name
  | .literal value => value.value interpretation
  | .nested inner => inner.value
  | .unary .not operand => return interpretation.not (← operand.value)
  | .unary .minus operand => return interpretation.negative (← operand.value)
  | .unary .plus operand => operand.value
  | .unary .factorial _ => failure
  | .binary operator left right =>
    return interpretation.binary operator (← left.value) (← right.value)
  | .isNull negated operand =>
    return interpretation.denied negated (interpretation.isNull (← operand.value))
  | .like _ _ _ _ (some _) => failure
  | .like false false operand pattern none =>
    return interpretation.like (← operand.value) (← pattern.value)
  | .like false true operand pattern none =>
    return interpretation.notLike (← operand.value) (← pattern.value)
  | .like true negated operand pattern none =>
    return interpretation.denied negated
      (interpretation.caselessLike (← operand.value) (← pattern.value))
  | .between negated operand low high =>
    return interpretation.denied negated
      (interpretation.between (← operand.value) (← low.value) (← high.value))
  | .inList negated operand list =>
    return interpretation.denied negated (interpretation.inList (← operand.value) (← values list))
  | .inQuery negated operand query =>
    return interpretation.denied negated (interpretation.inRows (← operand.value) (← query.rows))
  | .hasRow negated query =>
    return interpretation.denied negated (interpretation.hasRow (← query.rows))
  | .subquery query => return interpretation.rows (← query.rows)
  | .call call => call.value
  | .case operand branches otherwise =>
    return interpretation.choice (← optionalValue operand) (← branchValues branches)
      (← optionalValue otherwise)
  | .extract field operand => return interpretation.extract field (← operand.value)
  | .interval value unit =>
    return interpretation.interval (← liftM unit.leading) (← value.value)
  | .array _ elements => return interpretation.array (← values elements)
  | .index operand subscripts => do
    subscripts.foldlM (fun array index => return interpretation.element array (← index.subscript))
      (← operand.value)
  | .phrase _ => failure

/-- What expressions mean, from left to right. -/
noncomputable def values : List Expr → Meaning (List Value)
  | [] => return []
  | first :: rest => return (← first.value) :: (← values rest)

/-- What an expression means that may be absent. -/
noncomputable def optionalValue : Option Expr → Meaning (Option Value)
  | none => return none
  | some expr => return some (← expr.value)

/-- What the conditions of a choice mean, each with its result. -/
noncomputable def branchValues : List Branch → Meaning (List (Value × Value))
  | [] => return []
  | ⟨condition, result⟩ :: rest =>
    return (← condition.value, ← result.value) :: (← branchValues rest)

/-- What a function applied to arguments means. With a window it has no meaning here. -/
noncomputable def Call.value : Call → Meaning Value
  | ⟨name, distinct, arguments, order, filter, nullTreatment, [], _⟩ => do
    let arguments ← argumentValues arguments
    let value := interpretation.call (".".intercalate (name.map Ident.value)) distinct arguments
    if isUnadjusted order filter nullTreatment then return value
    else return interpretation.adjusted order filter nullTreatment value
  | ⟨_, _, _, _, _, _, _ :: _, _⟩ => failure

/-- What the arguments of a function mean, none of which may have a name. -/
noncomputable def argumentValues : List Argument → Meaning (List Value)
  | [] => return []
  | ⟨some _, _⟩ :: _ => failure
  | ⟨none, argument⟩ :: rest => return (← argument.value) :: (← argumentValues rest)

/-- What is given to a function. -/
noncomputable def ArgumentValue.value : ArgumentValue → Meaning Value
  | .expr expr => expr.value
  | .star => return interpretation.star none
  | .qualifiedStar name => return interpretation.starBehind name

end

end Written

/-! ### Calls without adjustments -/

mutual

/-- Whether every function in an expression is applied to its arguments and nothing else, those
in subqueries left out. -/
def Expr.isPlain : Expr → Bool
  | .nested inner => inner.isPlain
  | .unary _ operand => operand.isPlain
  | .binary _ left right => left.isPlain && right.isPlain
  | .isNull _ operand => operand.isPlain
  | .like _ _ operand pattern _ => operand.isPlain && pattern.isPlain
  | .between _ operand low high => operand.isPlain && low.isPlain && high.isPlain
  | .inList _ operand list => operand.isPlain && arePlain list
  | .inQuery _ operand _ => operand.isPlain
  | .call call => call.isPlain
  | .case operand branches otherwise =>
    isPlainOption operand && branchesPlain branches && isPlainOption otherwise
  | .extract _ operand => operand.isPlain
  | .interval value _ => value.isPlain
  | .array _ elements => arePlain elements
  | .index operand _ => operand.isPlain
  | _ => true

/-- Whether every function in some expressions is applied to its arguments and nothing else. -/
def arePlain : List Expr → Bool
  | [] => true
  | first :: rest => first.isPlain && arePlain rest

/-- Whether that holds of an expression that may be absent. -/
def isPlainOption : Option Expr → Bool
  | none => true
  | some expr => expr.isPlain

/-- Whether that holds of the branches of a choice. -/
def branchesPlain : List Branch → Bool
  | [] => true
  | ⟨condition, result⟩ :: rest => condition.isPlain && result.isPlain && branchesPlain rest

/-- Whether that holds of a function and of its arguments. -/
def Call.isPlain : Call → Bool
  | ⟨_, _, arguments, order, filter, nullTreatment, _, _⟩ =>
    argumentsPlain arguments && isUnadjusted order filter nullTreatment

/-- Whether that holds of arguments. -/
def argumentsPlain : List Argument → Bool
  | [] => true
  | ⟨_, argument⟩ :: rest => argument.isPlain && argumentsPlain rest

/-- Whether that holds of what is given to a function. -/
def ArgumentValue.isPlain : ArgumentValue → Bool
  | .expr expr => expr.isPlain
  | _ => true

end

end Sql

/-! ### Trees -/

namespace Tree

/-- The keyword of a field of a date. -/
def DatetimeField.keyword? : DatetimeField → Option Sql.Keyword
  | .none => Option.none
  | .second => some .SECOND
  | .minute => some .MINUTE
  | .hour => some .HOUR
  | .day => some .DAY
  | .month => some .MONTH
  | .year => some .YEAR

/-- The rows that an expression is, if it is a subquery. -/
def Expr.rows? (expr : Expr) : Option Select := if expr.kind = .select then expr.select else none

section Trees

variable {Value : Type} (interpretation : Interpretation Value)

/-- The function that an operator with one operand stands for. -/
def Operator.unary? : Operator → Option (Value → Value)
  | .not => some interpretation.not
  | .unaryMinus => some interpretation.negative
  | .isNull => some interpretation.isNull
  | _ => Option.none

/-- The function that an operator with two operands stands for. -/
def Operator.binary? : Operator → Option (Value → Value → Value)
  | .plus => some (interpretation.binary .plus)
  | .minus => some (interpretation.binary .minus)
  | .asterisk => some (interpretation.binary .multiply)
  | .slash => some (interpretation.binary .divide)
  | .percentage => some (interpretation.binary .modulo)
  | .caret => some (interpretation.binary .caret)
  | .equals => some (interpretation.binary .equal)
  | .notEquals => some (interpretation.binary .notEqual)
  | .less => some (interpretation.binary .less)
  | .lessEq => some (interpretation.binary .lessEqual)
  | .greater => some (interpretation.binary .greater)
  | .greaterEq => some (interpretation.binary .greaterEqual)
  | .like => some interpretation.like
  | .notLike => some interpretation.notLike
  | .iLike => some interpretation.caselessLike
  | .and => some (interpretation.binary .and)
  | .or => some (interpretation.binary .or)
  | .concat => some (interpretation.binary .concat)
  | _ => Option.none

mutual

/-- What an expression means, by its kind, its operator and its fields. -/
def Expr.value : Expr → Option Value
  | ⟨kind, expr, expr2, exprList, select, name, table, _, fval, ival, _, datetimeField,
      isBoolLiteral, opType, distinct⟩ =>
    match kind with
    | .literalFloat => some (interpretation.float fval)
    | .literalString => name.map interpretation.text
    | .literalInt =>
      some (if isBoolLiteral then interpretation.truth (ival ≠ 0)
        else interpretation.integer ival.toInt)
    | .literalNull => some interpretation.null
    | .star => some (interpretation.star table)
    | .parameter => some (interpretation.parameter ival)
    | .columnRef => name.map (interpretation.column table)
    | .functionRef =>
      match exprList with
      | some arguments => return interpretation.call (← name) distinct (← values arguments)
      | none => return interpretation.extract (← datetimeField.keyword?) (← requiredValue expr)
    | .operator =>
      match opType, exprList with
      | .between, some bounds => do
        match ← values bounds with
        | [low, high] => return interpretation.between (← requiredValue expr) low high
        | _ => none
      | .isIn, some list => return interpretation.inList (← requiredValue expr) (← values list)
      | .isIn, none =>
        return interpretation.inRows (← requiredValue expr) (← expr2.bind Expr.rows?)
      | .case, some branches =>
        return interpretation.choice (← optionalValue expr) (← branchValues branches)
          (← optionalValue expr2)
      | .hasRow, _ => select.map interpretation.hasRow
      | _, _ =>
        match opType.unary? interpretation with
        | some function => return function (← requiredValue expr)
        | none => do
          let function ← opType.binary? interpretation
          return function (← requiredValue expr) (← requiredValue expr2)
    | .select => select.map interpretation.rows
    | .hint => none
    | .array => return interpretation.array (← requiredValues exprList)
    | .arrayIndex => return interpretation.element (← requiredValue expr) ival.toInt
    | .datetimeField =>
      return interpretation.interval (← datetimeField.keyword?) (← requiredValue expr)

/-- What expressions mean. -/
def values : List Expr → Option (List Value)
  | [] => some []
  | first :: rest => return (← first.value) :: (← values rest)

/-- What the expressions mean that must be there. -/
def requiredValues : Option (List Expr) → Option (List Value)
  | none => none
  | some exprs => values exprs

/-- What an expression means that must be there. -/
def requiredValue : Option Expr → Option Value
  | none => none
  | some expr => expr.value

/-- What an expression means that may be absent. -/
def optionalValue : Option Expr → Option (Option Value)
  | none => some none
  | some expr => return some (← expr.value)

/-- What the branches of a choice mean, each of them a condition and its result. -/
def branchValues : List Expr → Option (List (Value × Value))
  | [] => some []
  | ⟨.operator, condition, result, _, _, _, _, _, _, _, _, _, _, .caseBranch, _⟩ :: rest =>
    return (← requiredValue condition, ← requiredValue result) :: (← branchValues rest)
  | _ :: _ => none

end

end Trees

end Tree

end SqlImage
