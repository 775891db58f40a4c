/-
This file says that a parameter has the number of its placeholder: giving values to
the placeholders of a query, counted as they are reached, makes the same tree as
giving them to the parameters of its tree. Each function that makes a part of a tree
makes the supplied part of what is supplied; the functions call one another as the
parts of a query lie inside one another, and so do the proofs. Once values are given
no placeholder is left to count, so the supplied query may stand anywhere.
-/

import SqlImage.Parse
import SqlImage.Proofs.Combination
import SqlImage.Proofs.Supply

namespace SqlImage

open SqlImage.Tree

namespace Lowering

/-! ### Computations that count nothing -/

section Gives

variable {α β : Type}

/-- A value is made, and no placeholder is counted. -/
def Gives {α : Type} (run : Lowering α) (value : α) : Prop :=
  ∀ before, run before = .ok (value, before)

theorem gives_pure (value : α) : Gives (pure value) value := fun _ => rfl

theorem Gives.bind {run : Lowering α} {next : α → Lowering β} {value : α} {result : β}
    (first : Gives run value) (second : Gives (next value) result) :
    Gives (run >>= next) result :=
  fun before => bind_eq_ok.mpr ⟨(value, before), first before, second before⟩

theorem gives_lift {made : Except Unsupported α} {value : α} (done : made = .ok value) :
    Gives (liftM made) value := by
  subst done
  exact fun _ => rfl

/-- What can be made at all is made whatever the number of placeholders is. -/
def Fixed {α : Type} (run : Lowering α) : Prop := Steady run (Gives run)

theorem fixed_pure (value : α) : Fixed (pure value) := steady_pure (gives_pure value)

theorem fixed_refuse (cause : Unsupported) : Fixed (refuse (α := α) cause) := nofun

theorem fixed_binaryOperator (operator : Sql.BinaryOperator) : Fixed (binaryOperator operator) := by
  cases operator <;> first | exact fixed_pure _ | exact fixed_refuse _

theorem fixed_timeField (field : Sql.Keyword) : Fixed (timeField field) := by
  unfold timeField
  split <;> first | exact fixed_pure _ | exact fixed_refuse _

theorem fixed_intervalField (unit : Sql.IntervalUnit) : Fixed (intervalField unit) := by
  unfold intervalField
  split
  · exact fixed_timeField _
  · exact fixed_refuse _
  · exact fixed_refuse _

theorem fixed_subscript (index : Sql.Expr) : Fixed (subscript index) := by
  unfold subscript
  split
  · split
    · exact fixed_pure _
    · exact fixed_refuse _
  · exact fixed_refuse _

theorem fixed_keepsAll (quantifier : Sql.SetQuantifier) : Fixed (keepsAll quantifier) := by
  cases quantifier <;> first | exact fixed_pure _ | exact fixed_refuse _

theorem fixed_joinKind (operator : Sql.JoinOperator) : Fixed (joinKind operator) := by
  unfold joinKind
  split <;> first | exact fixed_pure _ | exact fixed_refuse _

theorem fixed_distinct (distinct : Sql.Distinct) : Fixed distinct.lower := by
  cases distinct <;> first | exact fixed_pure _ | exact fixed_refuse _

variable {cause : Unsupported} {checked : Bool} {rest : Unit → Lowering β}

theorem fixed_of_check (holds : Fixed (rest ())) :
    Fixed (if checked = true then rest () else refuse cause >>= rest) := by
  split
  · exact holds
  · exact nofun

theorem fixed_check (select : Sql.Select) : Fixed select.check := by
  unfold Sql.Select.check
  refine fixed_of_check ?_
  refine fixed_of_check ?_
  refine fixed_of_check ?_
  refine fixed_of_check ?_
  refine fixed_of_check ?_
  split
  · exact fixed_pure _
  · exact fixed_refuse _

end Gives

/-! ### Leaves -/

section Leaves

variable (values : Int64 → String)

theorem steady_column (path : List Sql.Ident) :
    Steady (column path) fun made => Gives (column path) (made.supplied values) := by
  induction path using column.induct with
  | case1 => exact steady_refuse _
  | case2 => exact steady_pure (gives_pure _)
  | case3 => exact steady_pure (gives_pure _)
  | case4 _ rest _ _ inductionHypothesis =>
    rw [column]
    · exact inductionHypothesis
    all_goals assumption

theorem steady_number (digits : String) :
    Steady (number digits) fun made => Gives (number digits) (made.supplied values) := by
  unfold number
  split
  · exact steady_pure (gives_pure _)
  · split
    · exact steady_pure (gives_pure _)
    · exact steady_refuse _

theorem steady_tableName (name : List Sql.Ident) :
    Steady (tableName name) fun made => Gives (tableName name) (made.supplied values) := by
  unfold tableName
  split <;> first | exact steady_pure (gives_pure _) | exact steady_refuse _

/-- The next placeholder gets the value that is looked up for the next parameter. -/
theorem keeps_supply_literal (value : Sql.Literal) :
    Keeps (literal value) (value.supply values)
      fun made given => Gives (literal given) (made.supplied values) := by
  cases value with
  | number digits long =>
    exact (steady_number values digits).keeps fun _ => id
  | string style content =>
    cases style <;> first | exact keeps_pure (gives_pure _) | exact keeps_refuse _
  | dollarString tag content => exact keeps_refuse _
  | boolean value => exact keeps_pure (gives_pure _)
  | null => exact keeps_pure (gives_pure _)
  | placeholder name =>
    rintro before _ _ ⟨⟩
    exact ⟨_, gives_pure _, rfl⟩

theorem supplied_negate (negated : Bool) (expr : Tree.Expr) :
    (negate negated expr).supplied values = negate negated (expr.supplied values) := by
  cases negated <;> rfl

theorem supplied_withAlias (label : String) (expr : Tree.Expr) :
    (expr.withAlias label).supplied values = (expr.supplied values).withAlias label := by
  cases expr with
  | mk kind => cases kind <;> rfl

theorem supplied_label (label : Option Alias) (table : TableRef) :
    ({ table with label } : TableRef).supplied values = { table.supplied values with label } := by
  cases table
  rfl

end Leaves

/-! ### Clauses in their slots -/

section Slots

variable (values : Int64 → String)

theorem optionalOrdersSupplied_eq_map (order : Option (List Order)) :
    optionalOrdersSupplied values order = order.map (ordersSupplied values) := by
  cases order <;> rfl

theorem optionalLimitSupplied_eq_map (limit : Option Limit) :
    optionalLimitSupplied values limit = limit.map (Limit.supplied values) := by
  cases limit <;> rfl

theorem optionalWithsSupplied_eq_map (withs : Option (List With)) :
    optionalWithsSupplied values withs = withs.map (withsSupplied values) := by
  cases withs <;> rfl

theorem setOperationsSupplied_append (operations others : List SetOperation) :
    setOperationsSupplied values (operations ++ others) =
      setOperationsSupplied values operations ++ setOperationsSupplied values others := by
  induction operations with
  | nil => rfl
  | cons operation rest inductionHypothesis =>
    rw [List.cons_append, setOperationsSupplied, inductionHypothesis, setOperationsSupplied,
      List.cons_append]

theorem fillTables_supplied {tables : Option (List With)} {select filled : Select}
    (done : fillTables tables select = .ok filled) :
    fillTables (optionalWithsSupplied values tables) (select.supplied values) =
      .ok (filled.supplied values) := by
  obtain ⟨withDescriptions, slotIn, rfl⟩ := fillTables_eq_ok.mp done
  have suppliedIn := slotIn.map (withsSupplied values)
  simp only [← optionalWithsSupplied_eq_map] at suppliedIn
  cases select
  simp only [Select.supplied]
  exact fillTables_eq_ok.mpr ⟨_, suppliedIn, rfl⟩

section Rows

variable {order : Option (List Order)} {limit : Option Limit}

theorem supplied_filledOperation (operation : SetOperation) (resultOrder : Option (List Order))
    (resultLimit : Option Limit) :
    SetOperation.supplied values { operation with resultOrder, resultLimit } =
      { operation.supplied values with
        resultOrder := resultOrder.map (ordersSupplied values)
        resultLimit := resultLimit.map (Limit.supplied values) } := by
  cases operation
  simp only [SetOperation.supplied, optionalOrdersSupplied_eq_map, optionalLimitSupplied_eq_map]

/-- An order and a limit find the same slots with the values in them. -/
theorem filledRows_supplied {compound : Bool} {select filled : Select}
    (rowsIn : FilledRows order limit compound select filled) :
    FilledRows (order.map (ordersSupplied values)) (limit.map (Limit.supplied values)) compound
      (select.supplied values) (filled.supplied values) := by
  cases rowsIn with
  | ofSelect isAlone orderIn limitIn =>
    have alone : compound = true →
        (optionalSetOperationsSupplied values select.setOperations).getD [] = [] := by
      intro isCompound
      have none := isAlone isCompound
      cases held : select.setOperations with
      | none => rfl
      | some operations =>
        rw [held, Option.getD_some] at none
        rw [none]
        rfl
    cases select
    simp only [Select.supplied, optionalOrdersSupplied_eq_map, optionalLimitSupplied_eq_map]
    exact .ofSelect alone (orderIn.map _) (limitIn.map _)
  | @ofLast _ last _ _ isCompound parts orderIn limitIn =>
    have orders : (last.supplied values).resultOrder =
        last.resultOrder.map (ordersSupplied values) := by
      cases last
      rw [SetOperation.supplied, optionalOrdersSupplied_eq_map]
    have limits : (last.supplied values).resultLimit =
        last.resultLimit.map (Limit.supplied values) := by
      cases last
      rw [SetOperation.supplied, optionalLimitSupplied_eq_map]
    cases select
    cases parts
    simp only [Select.supplied, optionalSetOperationsSupplied, setOperationsSupplied_append,
      setOperationsSupplied, supplied_filledOperation, optionalOrdersSupplied_eq_map,
      optionalLimitSupplied_eq_map]
    exact .ofLast isCompound rfl (orders ▸ orderIn.map _) (limits ▸ limitIn.map _)

theorem fillRows_supplied {compound : Bool} {select filled : Select}
    (done : fillRows compound order limit select = .ok filled) :
    fillRows compound (optionalOrdersSupplied values order) (optionalLimitSupplied values limit)
      (select.supplied values) = .ok (filled.supplied values) := by
  rw [optionalOrdersSupplied_eq_map, optionalLimitSupplied_eq_map]
  exact fillRows_eq_ok.mpr (filledRows_supplied values (fillRows_eq_ok.mp done))

end Rows

theorem supplied_addOperation (operation : SetOperation) (select : Select) :
    (addOperation operation select).supplied values =
      addOperation (operation.supplied values) (select.supplied values) := by
  cases select with
  | mk _ _ _ _ _ _ setOperations =>
    cases setOperations with
    | none => rfl
    | some operations =>
      simp only [addOperation, Select.supplied, optionalSetOperationsSupplied, Option.getD_some,
        setOperationsSupplied_append]
      rfl

end Slots

end Lowering

namespace Sql

open Lowering

section Supplied

variable (values : Int64 → String)

/-! ### Clauses that may be left out -/

theorem sort_supplied (keys : List Order) :
    sort (ordersSupplied values keys) = optionalOrdersSupplied values (sort keys) := by
  cases keys <;> rfl

theorem rows_supplied (limit offset : Option Tree.Expr) :
    rows (optionalExprSupplied values limit) (optionalExprSupplied values offset) =
      optionalLimitSupplied values (rows limit offset) := by
  cases limit <;> cases offset <;> rfl

theorem groups_supplied (columns : Option (List Tree.Expr)) (having : Option Tree.Expr) :
    groups (optionalExprsSupplied values columns) (optionalExprSupplied values having) =
      optionalGroupBySupplied values (groups columns having) := by
  cases columns <;> cases having <;> rfl

/-! ### The visit -/

/-- Subscripts hold no placeholder. -/
theorem steady_subscripts (subscripts : List Expr) (operand : Tree.Expr) :
    Steady (subscripts.foldlM (fun array index => return .arrayIndex array (← subscript index))
      operand) fun made =>
        Gives (subscripts.foldlM (fun array index => return .arrayIndex array (← subscript index))
          (operand.supplied values)) (made.supplied values) := by
  induction subscripts generalizing operand with
  | nil => exact steady_pure (gives_pure _)
  | cons index rest inductionHypothesis =>
    simp only [List.foldlM_cons, bind_assoc, pure_bind]
    refine (fixed_subscript index).bind fun place placeGiven => ?_
    intro before made after done
    obtain ⟨same, given⟩ := inductionHypothesis (.arrayIndex operand place) before made after done
    exact ⟨same, placeGiven.bind given⟩

mutual

theorem Expr.keeps_supply : (expr : Expr) → Keeps expr.lower (expr.supply values)
    fun made given => Gives given.lower (made.supplied values)
  | .column path => by
    rw [Expr.lower, Expr.supply]
    refine (steady_column values path).keeps fun _ columnGiven => ?_
    rw [Expr.lower]
    exact columnGiven
  | .star => by
    rw [Expr.lower, Expr.supply]
    refine keeps_pure ?_
    rw [Expr.lower]
    exact gives_pure _
  | .qualifiedStar _ => by
    rw [Expr.lower, Expr.supply]
    refine keeps_pure ?_
    rw [Expr.lower]
    exact gives_pure _
  | .literal value => by
    rw [Expr.lower, Expr.supply]
    refine (keeps_supply_literal values value).map fun _ _ valueGiven => ?_
    rw [Expr.lower]
    exact valueGiven
  | .nested inner => by
    rw [Expr.lower, Expr.supply]
    refine inner.keeps_supply.map fun _ _ innerGiven => ?_
    rw [Expr.lower]
    exact innerGiven
  | .unary .not operand => by
    rw [Expr.lower, Expr.supply]
    refine operand.keeps_supply.bind fun _ _ operandGiven => keeps_pure ?_
    rw [Expr.lower]
    exact operandGiven.bind (gives_pure _)
  | .unary .minus operand => by
    rw [Expr.lower, Expr.supply]
    refine operand.keeps_supply.bind fun _ _ operandGiven => keeps_pure ?_
    rw [Expr.lower]
    exact operandGiven.bind (gives_pure _)
  | .unary .plus operand => by
    rw [Expr.lower, Expr.supply]
    refine operand.keeps_supply.map fun _ _ operandGiven => ?_
    rw [Expr.lower]
    exact operandGiven
  | .unary .factorial _ => by
    rw [Expr.lower]
    exact keeps_refuse _
  | .binary operator left right => by
    rw [Expr.lower, Expr.supply]
    refine (fixed_binaryOperator operator).bind_keeps fun _ operatorGiven => ?_
    refine left.keeps_supply.bind fun _ _ leftGiven => ?_
    refine right.keeps_supply.bind fun _ _ rightGiven => keeps_pure ?_
    rw [Expr.lower]
    exact operatorGiven.bind (leftGiven.bind (rightGiven.bind (gives_pure _)))
  | .isNull negated operand => by
    rw [Expr.lower, Expr.supply]
    refine operand.keeps_supply.bind fun _ _ operandGiven => keeps_pure ?_
    rw [Expr.lower, supplied_negate]
    exact operandGiven.bind (gives_pure _)
  | .like false _ _ _ (some _) => by
    rw [Expr.lower]
    exact keeps_refuse _
  | .like true _ _ _ (some _) => by
    rw [Expr.lower]
    exact keeps_refuse _
  | .like false negated operand pattern none => by
    rw [Expr.lower, Expr.supply]
    refine operand.keeps_supply.bind fun _ _ operandGiven => ?_
    refine pattern.keeps_supply.bind fun _ _ patternGiven => keeps_pure ?_
    rw [Expr.lower]
    cases negated with
    | false => exact operandGiven.bind (patternGiven.bind (gives_pure _))
    | true => exact operandGiven.bind (patternGiven.bind (gives_pure _))
  | .like true negated operand pattern none => by
    rw [Expr.lower, Expr.supply]
    refine operand.keeps_supply.bind fun _ _ operandGiven => ?_
    refine pattern.keeps_supply.bind fun _ _ patternGiven => keeps_pure ?_
    rw [Expr.lower, supplied_negate]
    exact operandGiven.bind (patternGiven.bind (gives_pure _))
  | .between negated operand low high => by
    rw [Expr.lower, Expr.supply]
    refine operand.keeps_supply.bind fun _ _ operandGiven => ?_
    refine low.keeps_supply.bind fun _ _ lowGiven => ?_
    refine high.keeps_supply.bind fun _ _ highGiven => keeps_pure ?_
    rw [Expr.lower, supplied_negate]
    exact operandGiven.bind (lowGiven.bind (highGiven.bind (gives_pure _)))
  | .inList negated operand list => by
    rw [Expr.lower, Expr.supply]
    refine operand.keeps_supply.bind fun _ _ operandGiven => ?_
    refine (keeps_supplyExprs list).bind fun _ _ listGiven => keeps_pure ?_
    rw [Expr.lower, supplied_negate]
    exact operandGiven.bind (listGiven.bind (gives_pure _))
  | .inQuery negated operand query => by
    rw [Expr.lower, Expr.supply]
    refine operand.keeps_supply.bind fun _ _ operandGiven => ?_
    refine query.keeps_supply.bind fun _ _ ⟨queryGiven, _⟩ => keeps_pure ?_
    rw [Expr.lower, supplied_negate]
    exact operandGiven.bind (queryGiven.bind (gives_pure _))
  | .hasRow negated query => by
    rw [Expr.lower, Expr.supply]
    refine query.keeps_supply.bind fun _ _ ⟨queryGiven, _⟩ => keeps_pure ?_
    rw [Expr.lower, supplied_negate]
    exact queryGiven.bind (gives_pure _)
  | .subquery query => by
    rw [Expr.lower, Expr.supply]
    refine query.keeps_supply.bind fun _ _ ⟨queryGiven, _⟩ => keeps_pure ?_
    rw [Expr.lower]
    exact queryGiven.bind (gives_pure _)
  | .call call => by
    rw [Expr.lower, Expr.supply]
    refine call.keeps_supply.map fun _ _ callGiven => ?_
    rw [Expr.lower]
    exact callGiven
  | .case operand branches otherwise => by
    rw [Expr.lower, Expr.supply]
    refine (keeps_supplyOption operand).bind fun _ _ operandGiven => ?_
    refine (keeps_supplyBranches branches).bind fun _ _ branchesGiven => ?_
    refine (keeps_supplyOption otherwise).bind fun _ _ otherwiseGiven => keeps_pure ?_
    rw [Expr.lower]
    exact operandGiven.bind (branchesGiven.bind (otherwiseGiven.bind (gives_pure _)))
  | .extract field operand => by
    rw [Expr.lower, Expr.supply]
    refine (fixed_timeField field).bind_keeps fun _ fieldGiven => ?_
    refine operand.keeps_supply.bind fun _ _ operandGiven => keeps_pure ?_
    rw [Expr.lower]
    exact fieldGiven.bind (operandGiven.bind (gives_pure _))
  | .interval value unit => by
    rw [Expr.lower, Expr.supply]
    refine (fixed_intervalField unit).bind_keeps fun _ unitGiven => ?_
    refine value.keeps_supply.bind fun _ _ valueGiven => keeps_pure ?_
    rw [Expr.lower]
    exact unitGiven.bind (valueGiven.bind (gives_pure _))
  | .array _ elements => by
    rw [Expr.lower, Expr.supply]
    refine (keeps_supplyExprs elements).bind fun _ _ elementsGiven => keeps_pure ?_
    rw [Expr.lower]
    exact elementsGiven.bind (gives_pure _)
  | .index operand subscripts => by
    rw [Expr.lower, Expr.supply]
    refine operand.keeps_supply.bind fun array _ operandGiven => ?_
    refine (steady_subscripts values subscripts array).keeps fun _ indexed => ?_
    rw [Expr.lower]
    exact operandGiven.bind indexed
  | .phrase _ => by
    rw [Expr.lower]
    exact keeps_refuse _

theorem keeps_supplyExprs : (exprs : List Expr) →
    Keeps (lowerExprs exprs) (supplyExprs values exprs)
      fun made given => Gives (lowerExprs given) (exprsSupplied values made)
  | [] => by
    rw [lowerExprs, supplyExprs]
    refine keeps_pure ?_
    rw [lowerExprs]
    exact gives_pure _
  | first :: rest => by
    rw [lowerExprs, supplyExprs]
    refine first.keeps_supply.bind fun _ _ firstGiven => ?_
    refine (keeps_supplyExprs rest).bind fun _ _ restGiven => keeps_pure ?_
    rw [lowerExprs]
    exact firstGiven.bind (restGiven.bind (gives_pure _))

theorem keeps_supplyOption : (expr : Option Expr) →
    Keeps (lowerOption expr) (supplyOption values expr)
      fun made given => Gives (lowerOption given) (optionalExprSupplied values made)
  | none => by
    rw [lowerOption, supplyOption]
    refine keeps_pure ?_
    rw [lowerOption]
    exact gives_pure _
  | some expr => by
    rw [lowerOption, supplyOption]
    refine expr.keeps_supply.bind fun _ _ exprGiven => keeps_pure ?_
    rw [lowerOption]
    exact exprGiven.bind (gives_pure _)

theorem keeps_supplyBranches : (branches : List Branch) →
    Keeps (lowerBranches branches) (supplyBranches values branches)
      fun made given => Gives (lowerBranches given) (exprsSupplied values made)
  | [] => by
    rw [lowerBranches, supplyBranches]
    refine keeps_pure ?_
    rw [lowerBranches]
    exact gives_pure _
  | ⟨condition, result⟩ :: rest => by
    rw [lowerBranches, supplyBranches]
    refine condition.keeps_supply.bind fun _ _ conditionGiven => ?_
    refine result.keeps_supply.bind fun _ _ resultGiven => ?_
    refine (keeps_supplyBranches rest).bind fun _ _ restGiven => keeps_pure ?_
    rw [lowerBranches]
    exact conditionGiven.bind (resultGiven.bind (restGiven.bind (gives_pure _)))

theorem Call.keeps_supply : (call : Call) → Keeps call.lower (call.supply values)
    fun made given => Gives given.lower (made.supplied values)
  | ⟨name, distinct, arguments, _, _, _, window, _⟩ => by
    rw [Call.lower, Call.supply]
    refine keeps_of_check fun noWindow => ?_
    refine (keeps_supplyArguments arguments).bind fun _ _ argumentsGiven => keeps_pure ?_
    rw [Call.lower, if_pos noWindow]
    exact argumentsGiven.bind (gives_pure _)

theorem keeps_supplyArguments : (arguments : List Argument) →
    Keeps (lowerArguments arguments) (supplyArguments values arguments)
      fun made given => Gives (lowerArguments given) (exprsSupplied values made)
  | [] => by
    rw [lowerArguments, supplyArguments]
    refine keeps_pure ?_
    rw [lowerArguments]
    exact gives_pure _
  | ⟨some _, _⟩ :: _ => by
    rw [lowerArguments]
    exact keeps_refuse _
  | ⟨none, value⟩ :: rest => by
    rw [lowerArguments, supplyArguments]
    refine value.keeps_supply.bind fun _ _ valueGiven => ?_
    refine (keeps_supplyArguments rest).bind fun _ _ restGiven => keeps_pure ?_
    rw [lowerArguments]
    exact valueGiven.bind (restGiven.bind (gives_pure _))

theorem ArgumentValue.keeps_supply : (value : ArgumentValue) →
    Keeps value.lower (value.supply values)
      fun made given => Gives given.lower (made.supplied values)
  | .expr expr => by
    rw [ArgumentValue.lower, ArgumentValue.supply]
    refine expr.keeps_supply.map fun _ _ exprGiven => ?_
    rw [ArgumentValue.lower]
    exact exprGiven
  | .star => by
    rw [ArgumentValue.lower, ArgumentValue.supply]
    refine keeps_pure ?_
    rw [ArgumentValue.lower]
    exact gives_pure _
  | .qualifiedStar _ => by
    rw [ArgumentValue.lower, ArgumentValue.supply]
    refine keeps_pure ?_
    rw [ArgumentValue.lower]
    exact gives_pure _

theorem keeps_supplyOrder : (order : List OrderItem) →
    Keeps (lowerOrder order) (supplyOrder values order)
      fun made given => Gives (lowerOrder given) (ordersSupplied values made)
  | [] => by
    rw [lowerOrder, supplyOrder]
    refine keeps_pure ?_
    rw [lowerOrder]
    exact gives_pure _
  | ⟨expr, ascending, nullsFirst⟩ :: rest => by
    rw [lowerOrder, supplyOrder]
    refine keeps_of_objection fun unsaid => ?_
    refine expr.keeps_supply.bind fun _ _ exprGiven => ?_
    refine (keeps_supplyOrder rest).bind fun _ _ restGiven => keeps_pure ?_
    rw [lowerOrder, unsaid]
    exact exprGiven.bind (restGiven.bind (gives_pure _))

/-- Supplying a query does not make it a set operation. -/
theorem Query.keeps_supply : (query : Query) → Keeps query.lower (query.supply values)
    fun made given => Gives given.lower (made.supplied values) ∧
      given.isCompound = query.isCompound
  | ⟨withClause, body, order, limit, _, offset, _, fetch, _⟩ => by
    rw [Query.lower, Query.supply]
    refine keeps_of_check fun noFetch => ?_
    refine (keeps_supplyWith withClause).bind fun _ _ withGiven => ?_
    refine body.keeps_supply.bind fun _ _ ⟨bodyGiven, sameKind⟩ => ?_
    refine (steady_lift fun _ => id).bind_keeps fun _ tablesDone => ?_
    refine (keeps_supplyOrder order).bind fun keys _ orderGiven => ?_
    refine (keeps_supplyOption limit).bind fun limitTree _ limitGiven => ?_
    refine (keeps_supplyOption offset).bind fun offsetTree _ offsetGiven => ?_
    refine (steady_lift fun _ => id).keeps fun _ rowsDone => ⟨?_, ?_⟩
    · rw [Query.lower, if_pos noFetch]
      refine withGiven.bind (bodyGiven.bind ?_)
      refine (gives_lift (fillTables_supplied values tablesDone)).bind ?_
      refine orderGiven.bind (limitGiven.bind (offsetGiven.bind ?_))
      rw [sameKind, sort_supplied, rows_supplied]
      exact gives_lift (fillRows_supplied values rowsDone)
    · rw [Query.isCompound, Query.isCompound]
      exact sameKind

theorem keeps_supplyWith : (withClause : Option With) →
    Keeps (lowerWith withClause) (supplyWith values withClause)
      fun made given => Gives (lowerWith given) (optionalWithsSupplied values made)
  | none => by
    rw [lowerWith, supplyWith]
    refine keeps_pure ?_
    rw [lowerWith]
    exact gives_pure _
  | some tables => by
    rw [lowerWith, supplyWith]
    refine tables.keeps_supply.bind fun _ _ tablesGiven => keeps_pure ?_
    rw [lowerWith]
    exact tablesGiven.bind (gives_pure _)

theorem With.keeps_supply : (tables : With) → Keeps tables.lower (tables.supply values)
    fun made given => Gives given.lower (withsSupplied values made)
  | ⟨recursive, tables⟩ => by
    rw [With.lower, With.supply]
    refine keeps_of_objection fun plain => ?_
    refine (keeps_supplyNamedQueries tables).map fun _ _ tablesGiven => ?_
    rw [With.lower, plain]
    exact tablesGiven

theorem keeps_supplyNamedQueries : (tables : List NamedQuery) →
    Keeps (lowerNamedQueries tables) (supplyNamedQueries values tables)
      fun made given => Gives (lowerNamedQueries given) (withsSupplied values made)
  | [] => by
    rw [lowerNamedQueries, supplyNamedQueries]
    refine keeps_pure ?_
    rw [lowerNamedQueries]
    exact gives_pure _
  | ⟨label, query, _⟩ :: rest => by
    rw [lowerNamedQueries, supplyNamedQueries]
    refine keeps_of_check fun noColumns => ?_
    refine query.keeps_supply.bind fun _ _ ⟨queryGiven, _⟩ => ?_
    refine (keeps_supplyNamedQueries rest).bind fun _ _ restGiven => keeps_pure ?_
    rw [lowerNamedQueries, if_pos noColumns]
    exact queryGiven.bind (restGiven.bind (gives_pure _))

theorem Body.keeps_supply : (body : Body) → Keeps body.lower (body.supply values)
    fun made given => Gives given.lower (made.supplied values) ∧ given.isCompound = body.isCompound
  | .select select => by
    rw [Body.lower, Body.supply]
    refine select.keeps_supply.map fun _ _ selectGiven => ⟨?_, ?_⟩
    · rw [Body.lower]
      exact selectGiven
    · simp only [Body.isCompound]
  | .query query => by
    rw [Body.lower, Body.supply]
    refine query.keeps_supply.map fun _ _ ⟨queryGiven, sameKind⟩ => ⟨?_, ?_⟩
    · rw [Body.lower]
      exact queryGiven
    · rw [Body.isCompound, Body.isCompound]
      exact sameKind
  | .operation kind quantifier left right => by
    rw [Body.lower, Body.supply]
    refine (fixed_keepsAll quantifier).bind_keeps fun _ flagGiven => ?_
    refine left.keeps_supply.bind fun _ _ ⟨leftGiven, _⟩ => ?_
    refine right.keeps_supply.bind fun _ _ ⟨rightGiven, _⟩ => keeps_pure ⟨?_, ?_⟩
    · rw [Body.lower, supplied_addOperation]
      exact flagGiven.bind (leftGiven.bind (rightGiven.bind (gives_pure _)))
    · rw [Body.isCompound, Body.isCompound]
  | .values _ => by
    rw [Body.lower]
    exact keeps_refuse _
  | .phrase _ => by
    rw [Body.lower]
    exact keeps_refuse _

theorem Select.keeps_supply : (select : Select) → Keeps select.lower (select.supply values)
    fun made given => Gives given.lower (made.supplied values)
  | ⟨distinct, top, items, into, tables, lateralViews, selection, grouping, distribution, having,
      windows, qualify⟩ => by
    rw [Select.lower, Select.supply]
    refine (fixed_check _).bind_keeps fun _ checkGiven => ?_
    refine (fixed_distinct distinct).bind_keeps fun _ distinctGiven => ?_
    refine (keeps_supplyItems items).bind fun _ _ itemsGiven => ?_
    refine (keeps_supplyTables tables).bind fun _ _ tablesGiven => ?_
    refine (keeps_supplyOption selection).bind fun _ _ selectionGiven => ?_
    refine grouping.keeps_supply.bind fun _ _ groupingGiven => ?_
    refine (keeps_supplyOption having).bind fun _ _ havingGiven => keeps_pure ?_
    rw [Select.lower]
    refine Gives.bind checkGiven (distinctGiven.bind ?_)
    refine itemsGiven.bind (tablesGiven.bind (selectionGiven.bind ?_))
    refine groupingGiven.bind (havingGiven.bind ?_)
    rw [groups_supplied]
    exact gives_pure _

theorem keeps_supplyItems : (items : List SelectItem) →
    Keeps (lowerItems items) (supplyItems values items)
      fun made given => Gives (lowerItems given) (exprsSupplied values made)
  | [] => by
    rw [lowerItems, supplyItems]
    refine keeps_pure ?_
    rw [lowerItems]
    exact gives_pure _
  | first :: rest => by
    rw [lowerItems, supplyItems]
    refine first.keeps_supply.bind fun _ _ firstGiven => ?_
    refine (keeps_supplyItems rest).bind fun _ _ restGiven => keeps_pure ?_
    rw [lowerItems]
    exact firstGiven.bind (restGiven.bind (gives_pure _))

theorem SelectItem.keeps_supply : (item : SelectItem) → Keeps item.lower (item.supply values)
    fun made given => Gives given.lower (made.supplied values)
  | .expr expr none => by
    rw [SelectItem.lower, SelectItem.supply]
    refine expr.keeps_supply.map fun _ _ exprGiven => ?_
    rw [SelectItem.lower]
    exact exprGiven
  | .expr expr (some label) => by
    rw [SelectItem.lower, SelectItem.supply]
    refine expr.keeps_supply.bind fun _ _ exprGiven => keeps_pure ?_
    rw [SelectItem.lower, supplied_withAlias]
    exact exprGiven.bind (gives_pure _)
  | .star _ => by
    rw [SelectItem.lower, SelectItem.supply]
    refine keeps_pure ?_
    rw [SelectItem.lower]
    exact gives_pure _
  | .qualifiedStar _ _ => by
    rw [SelectItem.lower, SelectItem.supply]
    refine keeps_pure ?_
    rw [SelectItem.lower]
    exact gives_pure _

theorem Grouping.keeps_supply : (grouping : Grouping) →
    Keeps grouping.lower (grouping.supply values)
      fun made given => Gives given.lower (optionalExprsSupplied values made)
  | .all => by
    rw [Grouping.lower]
    exact keeps_refuse _
  | .keys [] => by
    rw [Grouping.lower, Grouping.supply]
    refine keeps_pure ?_
    rw [Grouping.lower]
    exact gives_pure _
  | .keys (first :: rest) => by
    rw [Grouping.lower, Grouping.supply]
    refine first.keeps_supply.bind fun _ _ firstGiven => ?_
    refine (keeps_supplyExprs rest).bind fun _ _ restGiven => keeps_pure ?_
    rw [Grouping.lower]
    exact firstGiven.bind (restGiven.bind (gives_pure _))

theorem keeps_supplyTables : (tables : List FromItem) →
    Keeps (lowerTables tables) (supplyTables values tables)
      fun made given => Gives (lowerTables given) (optionalTableRefSupplied values made)
  | [] => by
    rw [lowerTables, supplyTables]
    refine keeps_pure ?_
    rw [lowerTables]
    exact gives_pure _
  | [item] => by
    rw [lowerTables, supplyTables]
    refine item.keeps_supply.bind fun _ _ itemGiven => keeps_pure ?_
    rw [lowerTables]
    exact itemGiven.bind (gives_pure _)
  | first :: second :: rest => by
    rw [lowerTables, supplyTables]
    refine first.keeps_supply.bind fun _ _ firstGiven => ?_
    refine second.keeps_supply.bind fun _ _ secondGiven => ?_
    refine (keeps_supplyFromItems rest).bind fun _ _ restGiven => keeps_pure ?_
    rw [lowerTables]
    exact firstGiven.bind (secondGiven.bind (restGiven.bind (gives_pure _)))

theorem keeps_supplyFromItems : (items : List FromItem) →
    Keeps (lowerFromItems items) (supplyFromItems values items)
      fun made given => Gives (lowerFromItems given) (tableRefsSupplied values made)
  | [] => by
    rw [lowerFromItems, supplyFromItems]
    refine keeps_pure ?_
    rw [lowerFromItems]
    exact gives_pure _
  | first :: rest => by
    rw [lowerFromItems, supplyFromItems]
    refine first.keeps_supply.bind fun _ _ firstGiven => ?_
    refine (keeps_supplyFromItems rest).bind fun _ _ restGiven => keeps_pure ?_
    rw [lowerFromItems]
    exact firstGiven.bind (restGiven.bind (gives_pure _))

theorem FromItem.keeps_supply : (item : FromItem) → Keeps item.lower (item.supply values)
    fun made given => Gives given.lower (made.supplied values)
  | ⟨factor, joins⟩ => by
    rw [FromItem.lower, FromItem.supply]
    refine factor.keeps_supply.bind fun left _ factorGiven => ?_
    refine (keeps_supplyJoins joins left).map fun _ _ joinsGiven => ?_
    rw [FromItem.lower]
    exact factorGiven.bind joinsGiven

theorem keeps_supplyJoins : (joins : List Join) → (left : TableRef) →
    Keeps (lowerJoins left joins) (supplyJoins values joins)
      fun made given => Gives (lowerJoins (left.supplied values) given) (made.supplied values)
  | [], left => by
    rw [lowerJoins, supplyJoins]
    refine keeps_pure ?_
    rw [lowerJoins]
    exact gives_pure _
  | ⟨operator, factor⟩ :: rest, left => by
    rw [lowerJoins, supplyJoins]
    refine (fixed_joinKind operator).bind_keeps fun kind kindGiven => ?_
    refine factor.keeps_supply.bind fun _ _ factorGiven => ?_
    refine (operator.keeps_supply kind).bind fun _ _ ⟨operatorGiven, sameKind⟩ => ?_
    refine (keeps_supplyJoins rest _).map fun _ _ restGiven => ?_
    rw [lowerJoins, sameKind]
    exact kindGiven.bind (factorGiven.bind (operatorGiven.bind restGiven))

/-- The kind of a join has nothing to do with its condition. -/
theorem JoinOperator.keeps_supply (kind : Tree.JoinKind) : (operator : JoinOperator) →
    Keeps (operator.lower kind) (operator.supply values)
      fun made given => Gives (given.lower kind) (made.1, optionalExprSupplied values made.2) ∧
        joinKind given = joinKind operator
  | .constrained side (.on condition) => by
    rw [JoinOperator.lower, JoinOperator.supply]
    refine condition.keeps_supply.bind fun _ _ conditionGiven => keeps_pure ⟨?_, ?_⟩
    · rw [JoinOperator.lower]
      exact conditionGiven.bind (gives_pure _)
    · cases side <;> rfl
  | .constrained _ (.using _) => by
    rw [JoinOperator.lower]
    exact keeps_refuse _
  | .constrained _ .natural | .constrained _ .unmarked | .cross | .crossApply | .outerApply => by
    simp only [JoinOperator.lower, JoinOperator.supply]
    refine keeps_pure ⟨?_, rfl⟩
    simp only [JoinOperator.lower]
    exact gives_pure _

theorem TableFactor.keeps_supply : (factor : TableFactor) →
    Keeps factor.lower (factor.supply values)
      fun made given => Gives given.lower (made.supplied values)
  | .table name _ _ label _ => by
    rw [TableFactor.lower, TableFactor.supply]
    refine (steady_tableName values name).bind_keeps fun _ nameGiven => keeps_pure ?_
    rw [TableFactor.lower, supplied_label]
    exact nameGiven.bind (gives_pure _)
  | .derived true _ _ => by
    rw [TableFactor.lower]
    exact keeps_refuse _
  | .derived false query label => by
    rw [TableFactor.lower, TableFactor.supply]
    refine query.keeps_supply.bind fun _ _ ⟨queryGiven, _⟩ => keeps_pure ?_
    rw [TableFactor.lower]
    exact queryGiven.bind (gives_pure _)
  | .nested inner none => by
    rw [TableFactor.lower, TableFactor.supply]
    refine inner.keeps_supply.bind fun _ _ innerGiven => keeps_pure ?_
    rw [TableFactor.lower]
    exact innerGiven.bind (gives_pure _)
  | .nested inner (some label) => by
    rw [TableFactor.lower, TableFactor.supply]
    refine inner.keeps_supply.bind fun _ _ innerGiven => keeps_pure ?_
    rw [TableFactor.lower, supplied_label]
    exact innerGiven.bind (gives_pure _)
  | .phrase _ _ _ => by
    rw [TableFactor.lower]
    exact keeps_refuse _

end

/-- A parameter stands for its placeholder: values that are given to the placeholders of a query, in
the order in which they are reached, are found in place of the parameters of its tree. -/
theorem Query.lower_supply {query : Query} {before after : Nat} {tree : Tree.Select}
    (lowered : query.lower before = .ok (tree, after)) :
    (query.supply values before).2 = after ∧
      ∀ other, (query.supply values before).1.lower other = .ok (tree.supplied values, other) := by
  obtain ⟨given, ⟨givenLowered, _⟩, supplied⟩ := query.keeps_supply values before tree after lowered
  rw [supplied]
  exact ⟨rfl, givenLowered⟩

end Supplied

/-- A placeholder in a named query, one in a select list, and two that bound the rows. -/
def Query.fourPlaceholders : Query :=
  let place : Literal := .placeholder "?"
  { ofBody (.ofValue place) with
    withClause := some ⟨false, [⟨⟨⟨"w", none⟩, []⟩, ofBody (.ofValue place), none⟩]⟩
    limit := some (.literal place)
    offset := some (.literal place) }

theorem Query.lower_supply_fourPlaceholders :
    let values (index : Int64) : String := if index = 2 then "limit" else "other"
    ∃ tree, fourPlaceholders.lower 0 = .ok (tree, 4) ∧
      tree.limit = some ⟨some (.parameter 2), some (.parameter 3)⟩ ∧
      (fourPlaceholders.supply values 0).1.lower 7 = .ok (tree.supplied values, 7) ∧
      (tree.supplied values).limit =
        some ⟨some (.literalString "limit"), some (.literalString "other")⟩ := by
  intro values
  have limits : (fourPlaceholders.lower 0).map (fun made => (made.1.limit, made.2)) =
      .ok (some ⟨some (.parameter 2), some (.parameter 3)⟩, 4) := by rfl
  cases lowered : fourPlaceholders.lower 0 with
  | error cause =>
    rw [lowered] at limits
    cases limits
  | ok outcome =>
    obtain ⟨tree, after⟩ := outcome
    rw [lowered] at limits
    obtain ⟨limit, rfl⟩ := Prod.mk.inj (Except.ok.inj limits)
    obtain ⟨-, supplied⟩ := lower_supply values lowered
    refine ⟨tree, rfl, limit, supplied 7, ?_⟩
    calc (tree.supplied values).limit
        = optionalLimitSupplied values tree.limit := by cases tree; rfl
      _ = some ⟨some (.literalString "limit"), some (.literalString "other")⟩ := by rw [limit]; rfl

end Sql

/-! ### Numbers in a text -/

/-- How the rows of the first statement are bounded: the limit and the offset, each by its kind and
its number. -/
def Tree.ParseResult.bounds? : ParseResult → Option ((ExprKind × Int64) × (ExprKind × Int64))
  | .valid (.select body :: _) => do
    let limit ← body.limit
    let wanted ← limit.limit
    let skipped ← limit.offset
    return ((wanted.kind, wanted.ival), (skipped.kind, skipped.ival))
  | _ => none

/-- Of two numbers behind `LIMIT` the first one is the offset, but a parameter there has the second
number. -/
theorem parse_limit_with_comma :
    (parse .default "SELECT a FROM t LIMIT 7, ?".toList).bounds? =
        some ((.parameter, 0), (.literalInt, 7)) ∧
      (parse .default "SELECT a FROM t LIMIT ?, ?".toList).bounds? =
        some ((.parameter, 0), (.parameter, 1)) := by
  decide +kernel

end SqlImage
