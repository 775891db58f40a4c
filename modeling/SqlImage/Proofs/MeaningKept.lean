/-
This file says that the tree of an expression means what the expression means, under
every interpretation. Each function that makes a part of a tree is compared with the
one that reads the same part as it was written: whenever a tree is made, the tree
and the part both have a meaning, the two meanings agree, and as many placeholders
are counted. The functions call one another as the parts of an expression lie inside
one another, and so do the proofs.
-/

import SqlImage.Proofs.Meaning
import SqlImage.Proofs.Outcome

namespace SqlImage

open SqlImage.Tree

namespace Lowering

/-! ### Trees by the functions that build them -/

section Values

variable {Value : Type} {interpretation : Interpretation Value} {tree left right : Tree.Expr}
  {list : List Tree.Expr} {select : Tree.Select} {value first second : Value} {values : List Value}

theorem value_unary {opType : Operator} {function : Value → Value}
    (isUnary : opType.unary? interpretation = some function)
    (found : tree.value interpretation = some value) :
    (Tree.Expr.unary opType tree).value interpretation = some (function value) := by
  have meant : (Tree.Expr.unary opType tree).value interpretation =
      (tree.value interpretation).bind fun value => some (function value) := by
    cases opType <;> first | cases isUnary; done | cases isUnary; rfl
  rw [meant, found, Option.bind_some]

theorem value_binary {opType : Operator} {function : Value → Value → Value}
    (isBinary : opType.binary? interpretation = some function)
    (leftFound : left.value interpretation = some first)
    (rightFound : right.value interpretation = some second) :
    (Tree.Expr.binary opType left right).value interpretation = some (function first second) := by
  have meant : (Tree.Expr.binary opType left right).value interpretation =
      (left.value interpretation).bind fun first =>
        (right.value interpretation).bind fun second => some (function first second) := by
    cases opType <;> first | cases isBinary; done | cases isBinary; rfl
  rw [meant, leftFound, Option.bind_some, rightFound, Option.bind_some]

theorem values_cons (found : tree.value interpretation = some value)
    (listFound : Tree.values interpretation list = some values) :
    Tree.values interpretation (tree :: list) = some (value :: values) := by
  have meant : Tree.values interpretation (tree :: list) =
      (tree.value interpretation).bind fun value =>
        (Tree.values interpretation list).bind fun values => some (value :: values) := rfl
  rw [meant, found, Option.bind_some, listFound, Option.bind_some]

theorem optionalValue_some (found : tree.value interpretation = some value) :
    Tree.optionalValue interpretation (some tree) = some (some value) := by
  have meant : Tree.optionalValue interpretation (some tree) =
      (tree.value interpretation).bind fun value => some (some value) := rfl
  rw [meant, found, Option.bind_some]

theorem value_between (found : tree.value interpretation = some value)
    (lowFound : left.value interpretation = some first)
    (highFound : right.value interpretation = some second) :
    (Tree.Expr.between tree left right).value interpretation =
      some (interpretation.between value first second) := by
  have bounds : Tree.values interpretation [left, right] = some [first, second] :=
    values_cons lowFound (values_cons highFound rfl)
  obtain ⟨next, meant, applied⟩ : ∃ next : List Value → Option Value,
      (Tree.Expr.between tree left right).value interpretation =
          (Tree.values interpretation [left, right]).bind next ∧
        next [first, second] = (tree.value interpretation).bind fun value =>
          some (interpretation.between value first second) := ⟨_, rfl, rfl⟩
  rw [meant, bounds, Option.bind_some, applied, found, Option.bind_some]

theorem value_inList (found : tree.value interpretation = some value)
    (listFound : Tree.values interpretation list = some values) :
    (Tree.Expr.inList tree list).value interpretation =
      some (interpretation.inList value values) := by
  have meant : (Tree.Expr.inList tree list).value interpretation =
      (tree.value interpretation).bind fun value =>
        (Tree.values interpretation list).bind fun values =>
          some (interpretation.inList value values) := rfl
  rw [meant, found, Option.bind_some, listFound, Option.bind_some]

theorem value_inSelect (found : tree.value interpretation = some value) :
    (Tree.Expr.inSelect tree select).value interpretation =
      some (interpretation.inRows value select) := by
  have meant : (Tree.Expr.inSelect tree select).value interpretation =
      (tree.value interpretation).bind fun value =>
        some (interpretation.inRows value select) := rfl
  rw [meant, found, Option.bind_some]

theorem value_case {operand otherwise : Option Tree.Expr} {branches : List Tree.Expr}
    {compared left : Option Value} {pairs : List (Value × Value)}
    (operandFound : Tree.optionalValue interpretation operand = some compared)
    (branchesFound : Tree.branchValues interpretation branches = some pairs)
    (otherwiseFound : Tree.optionalValue interpretation otherwise = some left) :
    (Tree.Expr.case operand branches otherwise).value interpretation =
      some (interpretation.choice compared pairs left) := by
  have meant : (Tree.Expr.case operand branches otherwise).value interpretation =
      (Tree.optionalValue interpretation operand).bind fun compared =>
        (Tree.branchValues interpretation branches).bind fun pairs =>
          (Tree.optionalValue interpretation otherwise).bind fun left =>
            some (interpretation.choice compared pairs left) := rfl
  rw [meant, operandFound, Option.bind_some, branchesFound, Option.bind_some, otherwiseFound,
    Option.bind_some]

theorem branchValues_cons {branches : List Tree.Expr} {pairs : List (Value × Value)}
    (conditionFound : left.value interpretation = some first)
    (resultFound : right.value interpretation = some second)
    (branchesFound : Tree.branchValues interpretation branches = some pairs) :
    Tree.branchValues interpretation (.caseBranch left right :: branches) =
      some ((first, second) :: pairs) := by
  have meant : Tree.branchValues interpretation (.caseBranch left right :: branches) =
      (left.value interpretation).bind fun first =>
        (right.value interpretation).bind fun second =>
          (Tree.branchValues interpretation branches).bind fun pairs =>
            some ((first, second) :: pairs) := rfl
  rw [meant, conditionFound, Option.bind_some, resultFound, Option.bind_some, branchesFound,
    Option.bind_some]

theorem value_functionRef (name : String) (distinct : Bool)
    (listFound : Tree.values interpretation list = some values) :
    (Tree.Expr.functionRef name list distinct).value interpretation =
      some (interpretation.call name distinct values) := by
  have meant : (Tree.Expr.functionRef name list distinct).value interpretation =
      (Tree.values interpretation list).bind fun values =>
        some (interpretation.call name distinct values) := rfl
  rw [meant, listFound, Option.bind_some]

theorem value_extract {field : DatetimeField} {keyword : Sql.Keyword}
    (named : field.keyword? = some keyword) (found : tree.value interpretation = some value) :
    (Tree.Expr.extract field tree).value interpretation =
      some (interpretation.extract keyword value) := by
  have meant : (Tree.Expr.extract field tree).value interpretation =
      field.keyword?.bind fun keyword =>
        (tree.value interpretation).bind fun value =>
          some (interpretation.extract keyword value) := rfl
  rw [meant, named, Option.bind_some, found, Option.bind_some]

theorem value_interval {field : DatetimeField} {keyword : Sql.Keyword}
    (named : field.keyword? = some keyword) (found : tree.value interpretation = some value) :
    (Tree.Expr.interval field tree).value interpretation =
      some (interpretation.interval keyword value) := by
  have meant : (Tree.Expr.interval field tree).value interpretation =
      field.keyword?.bind fun keyword =>
        (tree.value interpretation).bind fun value =>
          some (interpretation.interval keyword value) := rfl
  rw [meant, named, Option.bind_some, found, Option.bind_some]

theorem value_array (listFound : Tree.values interpretation list = some values) :
    (Tree.Expr.array list).value interpretation = some (interpretation.array values) := by
  have meant : (Tree.Expr.array list).value interpretation =
      (Tree.values interpretation list).bind fun values =>
        some (interpretation.array values) := rfl
  rw [meant, listFound, Option.bind_some]

theorem value_arrayIndex (index : Int64) (found : tree.value interpretation = some value) :
    (Tree.Expr.arrayIndex tree index).value interpretation =
      some (interpretation.element value index.toInt) := by
  have meant : (Tree.Expr.arrayIndex tree index).value interpretation =
      (tree.value interpretation).bind fun value =>
        some (interpretation.element value index.toInt) := rfl
  rw [meant, found, Option.bind_some]

theorem value_negate (negated : Bool) (found : tree.value interpretation = some value) :
    (negate negated tree).value interpretation = some (interpretation.denied negated value) := by
  cases negated with
  | false => exact found
  | true => exact value_unary rfl found

end Values

/-! ### Leaves -/

section Leaves

variable {Value : Type} (interpretation : Interpretation Value)

theorem keeps_number (digits : String) (long : Bool) :
    Keeps (number digits) ((Sql.Literal.number digits long).value interpretation)
      fun tree value => tree.value interpretation = some value := by
  simp only [number, Sql.Literal.value, integer?_toList, float?_eq]
  cases smallInteger? digits with
  | some value => exact keeps_pure rfl
  | none =>
    cases Decimal.ofText? digits.toList with
    | some value => exact keeps_pure rfl
    | none => exact keeps_refuse _

theorem keeps_literal (literal : Sql.Literal) :
    Keeps (Lowering.literal literal) (literal.value interpretation)
      fun tree value => tree.value interpretation = some value := by
  cases literal with
  | number digits long => exact keeps_number interpretation digits long
  | string style content =>
    cases style <;> first | exact keeps_pure rfl | exact keeps_refuse _
  | dollarString tag content => exact keeps_refuse _
  | boolean value => cases value <;> exact keeps_pure rfl
  | null => exact keeps_pure rfl
  | placeholder name =>
    rintro before _ _ ⟨⟩
    exact ⟨_, rfl, rfl⟩

/-- A name in front of at least two others has no part in what a column stands for. -/
theorem columnAt_cons (first second third : Sql.Ident) (rest : List Sql.Ident) :
    interpretation.columnAt (first :: second :: third :: rest) =
      interpretation.columnAt (second :: third :: rest) := by
  obtain ⟨name, table, more, turned⟩ :
      ∃ name table more, (second :: third :: rest).reverse = name :: table :: more := by
    rcases found : (second :: third :: rest).reverse with _ | ⟨name, _ | ⟨table, more⟩⟩
    · simp at found
    · simpa using congrArg List.length found
    · exact ⟨name, table, more, rfl⟩
  rw [Interpretation.columnAt, Interpretation.columnAt, List.reverse_cons, turned]
  rfl

theorem keeps_column (path : List Sql.Ident) :
    Keeps (m := Option) (column path) (liftM (interpretation.columnAt path))
      fun tree value => tree.value interpretation = some value := by
  induction path using column.induct with
  | case1 => exact keeps_refuse _
  | case2 => exact keeps_pure rfl
  | case3 => exact keeps_pure rfl
  | case4 first rest notOne notTwo inductionHypothesis =>
    obtain _ | ⟨second, _ | ⟨third, rest⟩⟩ := rest
    · exact (notOne rfl).elim
    · exact (notTwo second rfl).elim
    · rw [columnAt_cons]
      exact inductionHypothesis

theorem steady_binaryOperator (operator : Sql.BinaryOperator) :
    Steady (binaryOperator operator)
      fun opType => opType.binary? interpretation = some (interpretation.binary operator) := by
  cases operator <;> first | exact steady_pure rfl | exact steady_refuse _

theorem steady_timeField (field : Sql.Keyword) :
    Steady (timeField field) fun made => made.keyword? = some field := by
  unfold timeField
  split <;> first | exact steady_pure rfl | exact steady_refuse _

theorem keeps_timeField (field : Sql.Keyword) :
    Keeps (m := Option) (timeField field) (pure field)
      fun made keyword => made.keyword? = some keyword :=
  (steady_timeField field).keeps fun _ => id

theorem keeps_intervalField (unit : Sql.IntervalUnit) :
    Keeps (m := Option) (intervalField unit) (liftM unit.leading)
      fun made keyword => made.keyword? = some keyword := by
  rcases unit with ⟨_ | field, _ | _, _ | _, _ | _⟩ <;>
    first | exact keeps_timeField _ | exact keeps_refuse _

theorem keeps_rows (query : Sql.Query) : Keeps query.lower query.rows (· = ·) := by
  intro before made after done
  refine ⟨made, rfl, ?_⟩
  rw [Sql.Query.rows, done]
  rfl

theorem keeps_subscript (index : Sql.Expr) :
    Keeps (subscript index) index.subscript fun made found => made.toInt = found := by
  unfold subscript Sql.Expr.subscript
  split
  · rename_i digits _
    simp only [integer?_toList]
    cases smallInteger? digits with
    | some value => exact keeps_pure rfl
    | none => exact keeps_refuse _
  · exact keeps_refuse _

/-- Subscripts are taken one after the other, each of what those before it gave. -/
theorem keeps_subscripts (subscripts : List Sql.Expr) {tree : Tree.Expr} {value : Value}
    (found : tree.value interpretation = some value) :
    Keeps (m := Option)
      (subscripts.foldlM (fun array index => return .arrayIndex array (← subscript index)) tree)
      (subscripts.foldlM
        (fun array index => return interpretation.element array (← index.subscript)) value)
      fun tree value => tree.value interpretation = some value := by
  induction subscripts generalizing tree value with
  | nil => exact keeps_pure found
  | cons index rest inductionHypothesis =>
    rw [List.foldlM_cons, List.foldlM_cons]
    have indexed : Keeps (m := Option) (do return Tree.Expr.arrayIndex tree (← subscript index))
        (do return interpretation.element value (← index.subscript))
        (fun tree value => tree.value interpretation = some value) := by
      refine (keeps_subscript index).bind fun made _ same => ?_
      cases same
      exact keeps_pure (value_arrayIndex made found)
    exact indexed.bind fun _ _ => inductionHypothesis

end Leaves

end Lowering

namespace Sql

open Lowering

section Kept

variable {Value : Type} (interpretation : Interpretation Value)

/-! ### The visit -/

mutual

theorem Expr.keeps_lower : (expr : Expr) → expr.isPlain = true →
    Keeps expr.lower (expr.value interpretation)
      fun tree value => tree.value interpretation = some value
  | .column path, _ => by
    rw [Expr.lower, Expr.value]
    exact keeps_column interpretation path
  | .star, _ => by
    rw [Expr.lower, Expr.value]
    exact keeps_pure rfl
  | .qualifiedStar _, _ => by
    rw [Expr.lower, Expr.value]
    exact keeps_pure rfl
  | .literal literal, _ => by
    rw [Expr.lower, Expr.value]
    exact keeps_literal interpretation literal
  | .nested inner, plain => by
    rw [Expr.isPlain] at plain
    rw [Expr.lower, Expr.value]
    exact inner.keeps_lower plain
  | .unary .not operand, plain => by
    rw [Expr.isPlain] at plain
    rw [Expr.lower, Expr.value]
    refine (operand.keeps_lower plain).bind fun _ _ found => ?_
    exact keeps_pure (value_unary rfl found)
  | .unary .minus operand, plain => by
    rw [Expr.isPlain] at plain
    rw [Expr.lower, Expr.value]
    refine (operand.keeps_lower plain).bind fun _ _ found => ?_
    exact keeps_pure (value_unary rfl found)
  | .unary .plus operand, plain => by
    rw [Expr.isPlain] at plain
    rw [Expr.lower, Expr.value]
    exact operand.keeps_lower plain
  | .unary .factorial _, _ => by
    rw [Expr.lower]
    exact keeps_refuse _
  | .binary operator left right, plain => by
    rw [Expr.isPlain, Bool.and_eq_true] at plain
    rw [Expr.lower, Expr.value]
    refine (steady_binaryOperator interpretation operator).bind_keeps fun _ isBinary => ?_
    refine (left.keeps_lower plain.1).bind fun _ _ leftFound => ?_
    refine (right.keeps_lower plain.2).bind fun _ _ rightFound => ?_
    exact keeps_pure (value_binary isBinary leftFound rightFound)
  | .isNull negated operand, plain => by
    rw [Expr.isPlain] at plain
    rw [Expr.lower, Expr.value]
    refine (operand.keeps_lower plain).bind fun _ _ found => ?_
    exact keeps_pure (value_negate negated (value_unary rfl found))
  | .like false _ _ _ (some _), _ => by
    rw [Expr.lower]
    exact keeps_refuse _
  | .like true _ _ _ (some _), _ => by
    rw [Expr.lower]
    exact keeps_refuse _
  | .like false false operand pattern none, plain => by
    rw [Expr.isPlain, Bool.and_eq_true] at plain
    rw [Expr.lower, Expr.value]
    refine (operand.keeps_lower plain.1).bind fun _ _ found => ?_
    refine (pattern.keeps_lower plain.2).bind fun _ _ patternFound => ?_
    exact keeps_pure (value_binary rfl found patternFound)
  | .like false true operand pattern none, plain => by
    rw [Expr.isPlain, Bool.and_eq_true] at plain
    rw [Expr.lower, Expr.value]
    refine (operand.keeps_lower plain.1).bind fun _ _ found => ?_
    refine (pattern.keeps_lower plain.2).bind fun _ _ patternFound => ?_
    exact keeps_pure (value_binary rfl found patternFound)
  | .like true negated operand pattern none, plain => by
    rw [Expr.isPlain, Bool.and_eq_true] at plain
    rw [Expr.lower, Expr.value]
    refine (operand.keeps_lower plain.1).bind fun _ _ found => ?_
    refine (pattern.keeps_lower plain.2).bind fun _ _ patternFound => ?_
    exact keeps_pure (value_negate negated (value_binary rfl found patternFound))
  | .between negated operand low high, plain => by
    simp only [Expr.isPlain, Bool.and_eq_true] at plain
    rw [Expr.lower, Expr.value]
    refine (operand.keeps_lower plain.1.1).bind fun _ _ found => ?_
    refine (low.keeps_lower plain.1.2).bind fun _ _ lowFound => ?_
    refine (high.keeps_lower plain.2).bind fun _ _ highFound => ?_
    exact keeps_pure (value_negate negated (value_between found lowFound highFound))
  | .inList negated operand list, plain => by
    rw [Expr.isPlain, Bool.and_eq_true] at plain
    rw [Expr.lower, Expr.value]
    refine (operand.keeps_lower plain.1).bind fun _ _ found => ?_
    refine (keeps_lowerExprs list plain.2).bind fun _ _ listFound => ?_
    exact keeps_pure (value_negate negated (value_inList found listFound))
  | .inQuery negated operand query, plain => by
    rw [Expr.isPlain] at plain
    rw [Expr.lower, Expr.value]
    refine (operand.keeps_lower plain).bind fun _ _ found => ?_
    refine (keeps_rows query).bind fun _ _ same => ?_
    cases same
    exact keeps_pure (value_negate negated (value_inSelect found))
  | .hasRow negated query, _ => by
    rw [Expr.lower, Expr.value]
    refine (keeps_rows query).bind fun _ _ same => ?_
    cases same
    exact keeps_pure (value_negate negated rfl)
  | .subquery query, _ => by
    rw [Expr.lower, Expr.value]
    refine (keeps_rows query).bind fun _ _ same => ?_
    cases same
    exact keeps_pure rfl
  | .call call, plain => by
    rw [Expr.isPlain] at plain
    rw [Expr.lower, Expr.value]
    exact call.keeps_lower plain
  | .case operand branches otherwise, plain => by
    simp only [Expr.isPlain, Bool.and_eq_true] at plain
    rw [Expr.lower, Expr.value]
    refine (keeps_lowerOption operand plain.1.1).bind fun _ _ operandFound => ?_
    refine (keeps_lowerBranches branches plain.1.2).bind fun _ _ branchesFound => ?_
    refine (keeps_lowerOption otherwise plain.2).bind fun _ _ otherwiseFound => ?_
    exact keeps_pure (value_case operandFound branchesFound otherwiseFound)
  | .extract field operand, plain => by
    rw [Expr.isPlain] at plain
    rw [Expr.lower, Expr.value]
    refine (steady_timeField field).bind_keeps fun _ named => ?_
    refine (operand.keeps_lower plain).bind fun _ _ found => ?_
    exact keeps_pure (value_extract named found)
  | .interval value unit, plain => by
    rw [Expr.isPlain] at plain
    rw [Expr.lower, Expr.value]
    refine (keeps_intervalField unit).bind fun _ _ named => ?_
    refine (value.keeps_lower plain).bind fun _ _ found => ?_
    exact keeps_pure (value_interval named found)
  | .array _ elements, plain => by
    rw [Expr.isPlain] at plain
    rw [Expr.lower, Expr.value]
    refine (keeps_lowerExprs elements plain).bind fun _ _ elementsFound => ?_
    exact keeps_pure (value_array elementsFound)
  | .index operand subscripts, plain => by
    rw [Expr.isPlain] at plain
    rw [Expr.lower, Expr.value]
    refine (operand.keeps_lower plain).bind fun _ _ found => ?_
    exact keeps_subscripts interpretation subscripts found
  | .phrase _, _ => by
    rw [Expr.lower]
    exact keeps_refuse _

theorem keeps_lowerExprs : (exprs : List Expr) → arePlain exprs = true →
    Keeps (lowerExprs exprs) (values interpretation exprs)
      fun made found => Tree.values interpretation made = some found
  | [], _ => by
    rw [lowerExprs, values]
    exact keeps_pure rfl
  | first :: rest, plain => by
    rw [arePlain, Bool.and_eq_true] at plain
    rw [lowerExprs, values]
    refine (first.keeps_lower plain.1).bind fun _ _ firstFound => ?_
    refine (keeps_lowerExprs rest plain.2).bind fun _ _ restFound => ?_
    exact keeps_pure (values_cons firstFound restFound)

theorem keeps_lowerOption : (expr : Option Expr) → isPlainOption expr = true →
    Keeps (lowerOption expr) (optionalValue interpretation expr)
      fun made found => Tree.optionalValue interpretation made = some found
  | none, _ => by
    rw [lowerOption, optionalValue]
    exact keeps_pure rfl
  | some expr, plain => by
    rw [isPlainOption] at plain
    rw [lowerOption, optionalValue]
    refine (expr.keeps_lower plain).bind fun _ _ found => ?_
    exact keeps_pure (optionalValue_some found)

theorem keeps_lowerBranches : (branches : List Branch) → branchesPlain branches = true →
    Keeps (lowerBranches branches) (branchValues interpretation branches)
      fun made found => Tree.branchValues interpretation made = some found
  | [], _ => by
    rw [lowerBranches, branchValues]
    exact keeps_pure rfl
  | ⟨condition, result⟩ :: rest, plain => by
    simp only [branchesPlain, Bool.and_eq_true] at plain
    rw [lowerBranches, branchValues]
    refine (condition.keeps_lower plain.1.1).bind fun _ _ conditionFound => ?_
    refine (result.keeps_lower plain.1.2).bind fun _ _ resultFound => ?_
    refine (keeps_lowerBranches rest plain.2).bind fun _ _ restFound => ?_
    exact keeps_pure (branchValues_cons conditionFound resultFound restFound)

theorem Call.keeps_lower : (call : Call) → call.isPlain = true →
    Keeps call.lower (call.value interpretation)
      fun tree value => tree.value interpretation = some value
  | ⟨name, distinct, arguments, order, filter, nullTreatment, [], _⟩, plain => by
    rw [Call.isPlain, Bool.and_eq_true] at plain
    rw [Call.lower, Call.value]
    refine (keeps_lowerArguments arguments plain.1).bind fun _ _ argumentsFound => ?_
    rw [if_pos plain.2]
    exact keeps_pure (value_functionRef _ distinct argumentsFound)
  | ⟨_, _, _, _, _, _, _ :: _, _⟩, _ => by
    rw [Call.lower]
    exact keeps_refuse _

theorem keeps_lowerArguments : (arguments : List Argument) → argumentsPlain arguments = true →
    Keeps (lowerArguments arguments) (argumentValues interpretation arguments)
      fun made found => Tree.values interpretation made = some found
  | [], _ => by
    rw [lowerArguments, argumentValues]
    exact keeps_pure rfl
  | ⟨some _, _⟩ :: _, _ => by
    rw [lowerArguments]
    exact keeps_refuse _
  | ⟨none, argument⟩ :: rest, plain => by
    rw [argumentsPlain, Bool.and_eq_true] at plain
    rw [lowerArguments, argumentValues]
    refine (argument.keeps_lower plain.1).bind fun _ _ found => ?_
    refine (keeps_lowerArguments rest plain.2).bind fun _ _ restFound => ?_
    exact keeps_pure (values_cons found restFound)

theorem ArgumentValue.keeps_lower : (argument : ArgumentValue) → argument.isPlain = true →
    Keeps argument.lower (argument.value interpretation)
      fun tree value => tree.value interpretation = some value
  | .expr expr, plain => by
    rw [ArgumentValue.isPlain] at plain
    rw [ArgumentValue.lower, ArgumentValue.value]
    exact expr.keeps_lower plain
  | .star, _ => by
    rw [ArgumentValue.lower, ArgumentValue.value]
    exact keeps_pure rfl
  | .qualifiedStar _, _ => by
    rw [ArgumentValue.lower, ArgumentValue.value]
    exact keeps_pure rfl

end

/-- The tree of an expression means what the expression means, whatever its leaves and its
operators stand for. -/
theorem Expr.value_lower {expr : Expr} (plain : expr.isPlain = true) {before after : Nat}
    {tree : Tree.Expr} (lowered : expr.lower before = .ok (tree, after)) :
    ∃ value, tree.value interpretation = some value ∧
      expr.value interpretation before = some (value, after) :=
  expr.keeps_lower interpretation plain before tree after lowered

end Kept

/-- Whole numbers for everything: a test that holds is one, a parameter is ten and its number, and
a name is as much as it has letters. -/
def wholeNumbers : Interpretation Int where
  integer := id
  float _ := 0
  text content := content.length
  truth value := if value then 1 else 0
  null := 0
  parameter index := 10 + index.toInt
  column table name := (table.map (·.length)).getD 0 - name.length
  star _ := 0
  not value := 1 - value
  negative value := -value
  isNull _ := 0
  binary operator left right := if operator = .minus then left - right else left + right
  like operand pattern := if operand = pattern then 1 else 0
  notLike operand pattern := if operand = pattern then 0 else 1
  caselessLike operand pattern := if operand = pattern then 1 else 0
  between operand low high := if low ≤ operand ∧ operand ≤ high then 1 else 0
  inList operand list := if operand ∈ list then 1 else 0
  inRows _ _ := 0
  hasRow _ := 1
  rows _ := 0
  call _ _ arguments := arguments.foldl (· + ·) 0
  adjusted _ _ _ value := 100 + value
  choice compared branches otherwise :=
    (branches.lookup (compared.getD 1)).getD (otherwise.getD 0)
  extract _ value := value
  interval _ value := value
  array elements := elements.foldl (· + ·) 0
  element array index := 2 * array + index

/-- A choice that compares a parameter with a number, and else asks whether an element of an array
of arrays lies outside two bounds. -/
def Expr.someChoice : Expr :=
  let name (value : String) : Ident := ⟨value, none⟩
  let parameter : Expr := .literal (.placeholder "?")
  let element : Expr := .index (.column [name "s", name "table", name "b"])
    [.literal (.number "1" false), .literal (.number "3" false)]
  let low : Expr := .binary .minus parameter (.unary .plus (.literal (.number "2" false)))
  let call : Expr :=
    .call ⟨[name "f"], true, [⟨none, .expr (.nested parameter)⟩], [], none, none, [], false⟩
  .case (some parameter)
    [⟨.literal (.number "7" false), .like false true (.column [name "a"]) parameter none⟩]
    (some (.between true element low call))

theorem Expr.value_lower_someChoice :
    ∃ tree, someChoice.isPlain = true ∧ someChoice.lower 0 = .ok (tree, 4) ∧
      tree.value wholeNumbers = some 1 ∧ someChoice.value wholeNumbers 0 = some (1, 4) := by
  have plain : someChoice.isPlain = true := by rfl
  have meant : (someChoice.lower 0).map (fun made => (made.1.value wholeNumbers, made.2)) =
      .ok (some 1, 4) := by rfl
  obtain ⟨⟨tree, after⟩, lowered, same⟩ := map_eq_ok.mp meant
  obtain ⟨treeMeant, rfl⟩ := Prod.mk.inj same
  obtain ⟨value, found, written⟩ := Expr.value_lower wholeNumbers plain lowered
  cases treeMeant.symm.trans found
  exact ⟨tree, plain, lowered, found, written⟩

end Sql

end SqlImage
