/-
This file says that a tree has the parameters that its query has placeholders,
numbered one after the other and none of them twice. Each function that makes a part
of a tree numbers what it visits on from what was visited before, and keeps what it
is given; where the parts are put does not matter. The placeholders in parts that
leave no trace in a tree are the only ones without a parameter.
-/

import SqlImage.Proofs.Placeholder
import SqlImage.Proofs.Supplied

namespace SqlImage

open SqlImage.Tree

namespace Lowering

/-! ### Numbers one after the other -/

/-- The numbers of so many placeholders, of which the first one has `before` others before it. -/
def numbers (before count : Nat) : List Int64 := (List.range' before count).map Int64.ofNat

theorem numbers_add (before count more : Nat) :
    numbers before (count + more) = numbers before count ++ numbers (before + count) more := by
  rw [numbers, List.range'_eq_append_iff.mpr ⟨count, Nat.le_add_right _ _, rfl, ?_⟩,
    List.map_append]
  · rfl
  · rw [Nat.add_sub_cancel_left, Nat.mul_one]

section Adds

variable {α β : Type} {held : List Int64} {run : Lowering α} {next : α → Lowering β}
  {parameters : α → List Int64} {result : β → List Int64} {count first more : Nat}

/-- What is made has the parameters that were held before and one for each of so many
placeholders. -/
def Adds {α : Type} (held : List Int64) (run : Lowering α) (parameters : α → List Int64)
    (count : Nat) : Prop :=
  ∀ before made after, run before = .ok (made, after) →
    after = before + count ∧ (parameters made).Perm (held ++ numbers before count)

theorem adds_pure {value : α} (kept : (parameters value).Perm held) :
    Adds held (pure value) parameters 0 := by
  rintro before _ _ ⟨⟩
  exact ⟨rfl, by rwa [numbers, List.range'_zero, List.map_nil, List.append_nil]⟩

theorem adds_refuse (cause : Unsupported) : Adds held (refuse cause) parameters count := nofun

theorem adds_lift {made : Except Unsupported α}
    (kept : ∀ value, made = .ok value → (parameters value).Perm held) :
    Adds held (liftM made) parameters 0 := by
  intro before value after done
  obtain ⟨rfl, found⟩ := run_lift_eq_ok.mp done
  exact adds_pure (kept value found) after value after rfl

/-- What is made first is held by what is made next. -/
theorem Adds.bind (adds : Adds held run parameters first)
    (addsNext : ∀ value, Adds (parameters value) (next value) result more)
    (total : first + more = count) : Adds held (run >>= next) result count := by
  subst total
  intro before made after done
  obtain ⟨value, middle, found, rest⟩ := run_bind_eq_ok.mp done
  obtain ⟨rfl, kept⟩ := adds before value middle found
  obtain ⟨rfl, keptNext⟩ := addsNext value (before + first) made after rest
  refine ⟨Nat.add_assoc _ _ _, keptNext.trans ?_⟩
  rw [numbers_add, ← List.append_assoc]
  exact kept.append_right _

/-- What is held already goes past a step that makes something else. -/
theorem Adds.bind_beside (adds : Adds [] run parameters first)
    (addsNext : ∀ value, Adds (held ++ parameters value) (next value) result more)
    (total : first + more = count) : Adds held (run >>= next) result count := by
  have beside : Adds held run (held ++ parameters ·) first := by
    intro before value middle found
    obtain ⟨counted, kept⟩ := adds before value middle found
    exact ⟨counted, kept.append_left held⟩
  exact beside.bind addsNext total

/-- What is made last is put together with what is held. -/
theorem Adds.build {build : α → β} (adds : Adds [] run parameters count)
    (kept : ∀ value, (result (build value)).Perm (held ++ parameters value)) :
    Adds held (run >>= fun value => pure (build value)) result count :=
  adds.bind_beside (fun value => adds_pure (kept value)) (Nat.add_zero count)

/-- A step that counts no placeholder may come before. -/
theorem Steady.bind_adds {property : α → Prop} (steady : Steady run property)
    (adds : ∀ value, property value → Adds held (next value) result count) :
    Adds held (run >>= next) result count := by
  intro before made after done
  obtain ⟨value, middle, found, rest⟩ := run_bind_eq_ok.mp done
  obtain ⟨rfl, holds⟩ := steady before value middle found
  exact adds value holds middle made after rest

theorem Steady.adds_of {property : α → Prop} (steady : Steady run property)
    (kept : ∀ value, property value → (parameters value).Perm held) :
    Adds held run parameters 0 := by
  intro before value after found
  obtain ⟨rfl, holds⟩ := steady before value after found
  exact adds_pure (kept value holds) after value after rfl

variable {cause : Unsupported} {checked : Bool} {rest : Unit → Lowering β}

/-- What is known after a check that succeeds. -/
theorem steady_of_check {property : β → Prop}
    (steady : checked = true → Steady (rest ()) property) :
    Steady (if checked = true then rest () else refuse cause >>= rest) property := by
  split
  · rename_i succeeds
    exact steady succeeds
  · exact nofun

/-- What is made only if a check succeeds. -/
theorem adds_of_check (adds : checked = true → Adds held (rest ()) result count) :
    Adds held (if checked = true then rest () else refuse cause >>= rest) result count := by
  split
  · rename_i succeeds
    exact adds succeeds
  · exact nofun

/-- What is made only if nothing has to be refused. -/
theorem adds_of_objection (adds : checked = false → Adds held (rest ()) result count) :
    Adds held (if checked = true then refuse cause >>= rest else rest ()) result count := by
  split
  · exact nofun
  · rename_i fails
    exact adds (Bool.not_eq_true _ ▸ fails)

end Adds

end Lowering

/-! ### The parameters of what is built -/

namespace Tree

namespace Expr

variable (operator : Operator) (expr left right low high : Expr) (list : List Expr)
  (operand otherwise : Option Expr) (select : Select) (name : String) (distinct : Bool)
  (index : Int64) (field : DatetimeField)

@[simp]
theorem parameters_unary : (unary operator expr).parameters = expr.parameters := by
  simp [unary, Expr.operator, ofKind]

@[simp]
theorem parameters_binary : (binary operator left right).parameters =
    left.parameters ++ right.parameters := by
  simp [binary, Expr.operator, ofKind]

@[simp]
theorem parameters_between : (between expr low high).parameters =
    expr.parameters ++ (low.parameters ++ high.parameters) := by
  simp [between, Expr.operator, ofKind]

@[simp]
theorem parameters_inList : (inList expr list).parameters =
    expr.parameters ++ exprsParameters list := by
  simp [inList, Expr.operator, ofKind]

@[simp]
theorem parameters_subquery : (subquery select).parameters = select.parameters := by
  simp [subquery, ofKind]

@[simp]
theorem parameters_inSelect : (inSelect expr select).parameters =
    expr.parameters ++ select.parameters := by
  rw [inSelect, parameters_binary, parameters_subquery]

@[simp]
theorem parameters_hasRow : (hasRow select).parameters = select.parameters := by
  simp [hasRow, Expr.operator, ofKind]

@[simp]
theorem parameters_case : (case operand list otherwise).parameters =
    optionalExprParameters operand ++ (optionalExprParameters otherwise ++
      exprsParameters list) := by
  simp [case, Expr.operator, ofKind]

@[simp]
theorem parameters_caseBranch : (caseBranch left right).parameters =
    left.parameters ++ right.parameters := parameters_binary _ left right

@[simp]
theorem parameters_extract : (extract field expr).parameters = expr.parameters := by
  simp [extract, ofKind]

@[simp]
theorem parameters_interval : (interval field expr).parameters = expr.parameters := by
  simp [interval, ofKind]

@[simp]
theorem parameters_array : (array list).parameters = exprsParameters list := by
  simp [array, ofKind]

@[simp]
theorem parameters_arrayIndex : (arrayIndex expr index).parameters = expr.parameters := by
  simp [arrayIndex, ofKind]

@[simp]
theorem parameters_functionRef : (functionRef name list distinct).parameters =
    exprsParameters list := by
  simp [functionRef, ofKind]

@[simp]
theorem parameters_withAlias : (expr.withAlias name).parameters = expr.parameters := by
  cases expr
  rfl

@[simp]
theorem parameters_negate (negated : Bool) :
    (Lowering.negate negated expr).parameters = expr.parameters := by
  cases negated
  · rfl
  · exact parameters_unary _ expr

end Expr

theorem TableRef.parameters_label (table : TableRef) (label : Option Alias) :
    ({ table with label } : TableRef).parameters = table.parameters := by
  cases table
  rfl

@[simp]
theorem TableRef.parameters_crossProduct (list : List TableRef) :
    (TableRef.crossProduct list).parameters = tableRefsParameters list := by
  simp [crossProduct, ofKind, parameters]

theorem setOperationsParameters_append (operations others : List SetOperation) :
    setOperationsParameters (operations ++ others) =
      setOperationsParameters operations ++ setOperationsParameters others := by
  induction operations with
  | nil => rfl
  | cons operation rest inductionHypothesis =>
    rw [List.cons_append, setOperationsParameters, inductionHypothesis, setOperationsParameters,
      List.append_assoc]

end Tree

namespace Lowering

/-! ### Leaves -/

theorem steady_column_parameters (path : List Sql.Ident) :
    Steady (column path) fun made => made.parameters = [] := by
  induction path using column.induct with
  | case1 => exact steady_refuse _
  | case2 => exact steady_pure rfl
  | case3 => exact steady_pure rfl
  | case4 _ rest _ _ inductionHypothesis =>
    rw [column]
    · exact inductionHypothesis
    all_goals assumption

theorem steady_number_parameters (digits : String) :
    Steady (number digits) fun made => made.parameters = [] := by
  unfold number
  split
  · exact steady_pure rfl
  · split
    · exact steady_pure rfl
    · exact steady_refuse _

theorem steady_tableName_parameters (name : List Sql.Ident) :
    Steady (tableName name) fun made => made.parameters = [] := by
  unfold tableName
  split <;> first | exact steady_pure rfl | exact steady_refuse _

/-- A placeholder gets the next number. -/
theorem adds_literal (value : Sql.Literal) :
    Adds [] (literal value) Expr.parameters value.placeholders := by
  cases value with
  | number digits long =>
    exact (steady_number_parameters digits).adds_of fun _ none => .of_eq none
  | string style content =>
    cases style <;> first | exact adds_pure (.refl _) | exact adds_refuse _
  | dollarString tag content => exact adds_refuse _
  | boolean value => exact adds_pure (.refl _)
  | null => exact adds_pure (.refl _)
  | placeholder name =>
    rintro before _ _ ⟨⟩
    exact ⟨rfl, .refl _⟩

/-- A subscript is a number, if anything. -/
theorem steady_subscript (index : Sql.Expr) (everywhere : Bool) :
    Steady (subscript index) fun _ => index.placeholders everywhere = 0 := by
  unfold subscript
  split
  · split
    · refine steady_pure ?_
      rw [Sql.Expr.placeholders, Sql.Literal.placeholders]
      nofun
    · exact steady_refuse _
  · exact steady_refuse _

/-! ### Clauses in their slots -/

section Slots

theorem Receives.perm {α : Type} {slot clause filled : Option α}
    (receives : Receives slot clause filled) (parameters : Option α → List Int64)
    (absent : parameters none = []) :
    (parameters filled).Perm (parameters slot ++ parameters clause) := by
  cases receives with
  | nothing => rw [absent, List.append_nil]
  | clause isEmpty value => rw [isEmpty, absent, List.nil_append]

theorem perm_fillTables {tables : Option (List With)} {select filled : Select}
    (done : fillTables tables select = .ok filled) :
    filled.parameters.Perm (optionalWithsParameters tables ++ select.parameters) := by
  obtain ⟨withDescriptions, slotIn, rfl⟩ := fillTables_eq_ok.mp done
  refine List.perm_iff_count.mpr fun number => ?_
  have slot := (slotIn.perm optionalWithsParameters rfl).count_eq number
  cases select
  simp only [Select.parameters, List.count_append] at slot ⊢
  omega

section Rows

variable {order : Option (List Order)} {limit : Option Limit}

theorem perm_filledOperation {operation : SetOperation} {resultOrder : Option (List Order)}
    {resultLimit : Option Limit} (orderIn : Receives operation.resultOrder order resultOrder)
    (limitIn : Receives operation.resultLimit limit resultLimit) :
    (SetOperation.parameters { operation with resultOrder, resultLimit }).Perm
      (operation.parameters ++ (optionalOrdersParameters order ++
        optionalLimitParameters limit)) := by
  refine List.perm_iff_count.mpr fun number => ?_
  have orderSlot := (orderIn.perm optionalOrdersParameters rfl).count_eq number
  have limitSlot := (limitIn.perm optionalLimitParameters rfl).count_eq number
  cases operation
  simp only [SetOperation.parameters, List.count_append] at orderSlot limitSlot ⊢
  omega

theorem perm_fillRows {compound : Bool} {select filled : Select}
    (done : fillRows compound order limit select = .ok filled) :
    filled.parameters.Perm (select.parameters ++ (optionalOrdersParameters order ++
      optionalLimitParameters limit)) := by
  refine List.perm_iff_count.mpr fun number => ?_
  cases fillRows_eq_ok.mp done with
  | ofSelect isAlone orderIn limitIn =>
    have orderSlot := (orderIn.perm optionalOrdersParameters rfl).count_eq number
    have limitSlot := (limitIn.perm optionalLimitParameters rfl).count_eq number
    cases select
    simp only [Select.parameters, List.count_append] at orderSlot limitSlot ⊢
    omega
  | ofLast isCompound parts orderIn limitIn =>
    have last := (perm_filledOperation orderIn limitIn).count_eq number
    cases select
    cases parts
    simp only [Select.parameters, optionalSetOperationsParameters,
      setOperationsParameters_append, setOperationsParameters, List.count_append,
      List.count_nil] at last ⊢
    omega

end Rows

theorem perm_addOperation (operation : SetOperation) (select : Select) :
    (addOperation operation select).parameters.Perm
      (select.parameters ++ operation.parameters) := by
  refine List.perm_iff_count.mpr fun number => ?_
  cases select with
  | mk _ _ _ _ _ _ setOperations =>
    cases setOperations <;>
      simp only [addOperation, Select.parameters, optionalSetOperationsParameters,
        Option.getD_none, Option.getD_some, List.nil_append, setOperationsParameters,
        setOperationsParameters_append, List.count_append, List.count_nil] <;>
      omega

end Slots

end Lowering

namespace Sql

open Lowering

/-! ### Clauses that may be left out -/

@[simp]
theorem parameters_sort (keys : List Order) :
    optionalOrdersParameters (sort keys) = ordersParameters keys := by
  cases keys <;> rfl

@[simp]
theorem parameters_rows (limit offset : Option Tree.Expr) :
    optionalLimitParameters (rows limit offset) =
      optionalExprParameters limit ++ optionalExprParameters offset := by
  cases limit <;> cases offset <;> rfl

@[simp]
theorem parameters_groups (columns : Option (List Tree.Expr)) (having : Option Tree.Expr) :
    optionalGroupByParameters (groups columns having) =
      optionalExprsParameters columns ++ optionalExprParameters having := by
  cases columns <;> cases having <;> rfl

/-! ### Clauses that are refused -/

/-- A select that passes the check has none of the clauses that no tree can hold. -/
theorem steady_check (select : Select) : Steady select.check fun _ =>
    select.top = [] ∧ select.into = [] ∧ select.lateralViews = [] ∧ select.distribution = [] ∧
      select.windows = [] ∧ select.qualify = [] := by
  unfold Select.check
  refine steady_of_check fun top => ?_
  refine steady_of_check fun into => ?_
  refine steady_of_check fun lateralViews => ?_
  refine steady_of_check fun distribution => ?_
  refine steady_of_check fun windows => ?_
  split
  · rename_i qualify
    simp only [List.isEmpty_iff] at top into lateralViews distribution windows qualify
    exact steady_pure ⟨top, into, lateralViews, distribution, windows, qualify⟩
  · exact steady_refuse _

theorem steady_distinct (distinct : Distinct) :
    Steady distinct.lower fun _ => distinct.placeholders false = 0 := by
  cases distinct with
  | no => exact steady_pure rfl
  | rows => exact steady_pure rfl
  | on keys => exact steady_refuse _

/-! ### The visit -/

/-- Subscripts hold no placeholder. -/
theorem adds_subscripts (subscripts : List Expr) (operand : Tree.Expr) :
    Adds operand.parameters
      (subscripts.foldlM (fun array index => return .arrayIndex array (← subscript index)) operand)
      Tree.Expr.parameters (exprsPlaceholders false subscripts) := by
  induction subscripts generalizing operand with
  | nil => exact adds_pure (.refl _)
  | cons index rest inductionHypothesis =>
    simp only [List.foldlM_cons, bind_assoc, pure_bind]
    refine (steady_subscript index false).bind_adds fun place none => ?_
    have further := inductionHypothesis (.arrayIndex operand place)
    rw [Tree.Expr.parameters_arrayIndex] at further
    rwa [exprsPlaceholders, none, Nat.zero_add]

mutual

theorem Expr.adds_lower : (expr : Expr) →
    Adds [] expr.lower Tree.Expr.parameters (expr.placeholders false)
  | .column path => by
    rw [Expr.lower]
    exact (steady_column_parameters path).adds_of fun _ none => .of_eq none
  | .star => by
    rw [Expr.lower]
    exact adds_pure (.refl _)
  | .qualifiedStar _ => by
    rw [Expr.lower]
    exact adds_pure (.refl _)
  | .literal value => by
    rw [Expr.lower]
    exact adds_literal value
  | .nested inner => by
    rw [Expr.lower]
    exact inner.adds_lower
  | .unary .not operand => by
    rw [Expr.lower]
    exact operand.adds_lower.build fun _ => by simp
  | .unary .minus operand => by
    rw [Expr.lower]
    exact operand.adds_lower.build fun _ => by simp
  | .unary .plus operand => by
    rw [Expr.lower]
    exact operand.adds_lower
  | .unary .factorial _ => by
    rw [Expr.lower]
    exact adds_refuse _
  | .binary operator left right => by
    rw [Expr.lower]
    refine (fixed_binaryOperator operator).bind_adds fun _ _ => ?_
    refine left.adds_lower.bind_beside (fun _ => ?_) rfl
    exact right.adds_lower.build fun _ => by simp
  | .isNull negated operand => by
    rw [Expr.lower]
    exact operand.adds_lower.build fun _ => by simp
  | .like false _ _ _ (some _) => by
    rw [Expr.lower]
    exact adds_refuse _
  | .like true _ _ _ (some _) => by
    rw [Expr.lower]
    exact adds_refuse _
  | .like false negated operand pattern none => by
    rw [Expr.lower]
    refine operand.adds_lower.bind_beside (fun _ => ?_) rfl
    exact pattern.adds_lower.build fun _ => by simp
  | .like true negated operand pattern none => by
    rw [Expr.lower]
    refine operand.adds_lower.bind_beside (fun _ => ?_) rfl
    exact pattern.adds_lower.build fun _ => by simp
  | .between negated operand low high => by
    rw [Expr.lower]
    refine operand.adds_lower.bind_beside (fun _ => ?_) rfl
    refine low.adds_lower.bind_beside (fun _ => ?_) rfl
    exact high.adds_lower.build fun _ => by simp
  | .inList negated operand list => by
    rw [Expr.lower]
    refine operand.adds_lower.bind_beside (fun _ => ?_) rfl
    exact (adds_lowerExprs list).build fun _ => by simp
  | .inQuery negated operand query => by
    rw [Expr.lower]
    refine operand.adds_lower.bind_beside (fun _ => ?_) rfl
    exact query.adds_lower.build fun _ => by simp
  | .hasRow negated query => by
    rw [Expr.lower]
    exact query.adds_lower.build fun _ => by simp
  | .subquery query => by
    rw [Expr.lower]
    exact query.adds_lower.build fun _ => by simp
  | .call call => by
    rw [Expr.lower]
    exact call.adds_lower
  | .case operand branches otherwise => by
    rw [Expr.lower]
    refine (adds_lowerOption operand).bind_beside (fun _ => ?_) rfl
    refine (adds_lowerBranches branches).bind_beside (fun _ => ?_) rfl
    refine (adds_lowerOption otherwise).build fun _ => ?_
    rw [Tree.Expr.parameters_case, List.nil_append, List.append_assoc]
    exact List.perm_append_comm.append_left _
  | .extract field operand => by
    rw [Expr.lower]
    refine (fixed_timeField field).bind_adds fun _ _ => ?_
    exact operand.adds_lower.build fun _ => by simp
  | .interval value unit => by
    rw [Expr.lower]
    refine (fixed_intervalField unit).bind_adds fun _ _ => ?_
    exact value.adds_lower.build fun _ => by simp
  | .array _ elements => by
    rw [Expr.lower]
    exact (adds_lowerExprs elements).build fun _ => by simp
  | .index operand subscripts => by
    rw [Expr.lower]
    exact operand.adds_lower.bind (fun _ => adds_subscripts subscripts _) rfl
  | .phrase _ => by
    rw [Expr.lower]
    exact adds_refuse _

theorem adds_lowerExprs : (exprs : List Expr) →
    Adds [] (lowerExprs exprs) exprsParameters (exprsPlaceholders false exprs)
  | [] => by
    rw [lowerExprs]
    exact adds_pure (.refl _)
  | first :: rest => by
    rw [lowerExprs]
    refine first.adds_lower.bind_beside (fun _ => ?_) rfl
    exact (adds_lowerExprs rest).build fun _ => by simp

theorem adds_lowerOption : (expr : Option Expr) →
    Adds [] (lowerOption expr) optionalExprParameters (optionPlaceholders false expr)
  | none => by
    rw [lowerOption]
    exact adds_pure (.refl _)
  | some expr => by
    rw [lowerOption]
    exact expr.adds_lower.build fun _ => by simp

theorem adds_lowerBranches : (branches : List Branch) →
    Adds [] (lowerBranches branches) exprsParameters (branchesPlaceholders false branches)
  | [] => by
    rw [lowerBranches]
    exact adds_pure (.refl _)
  | ⟨condition, result⟩ :: rest => by
    rw [lowerBranches]
    refine condition.adds_lower.bind_beside (fun _ => ?_) rfl
    refine result.adds_lower.bind_beside (fun _ => ?_) rfl
    exact (adds_lowerBranches rest).build fun _ => by simp

theorem Call.adds_lower : (call : Call) →
    Adds [] call.lower Tree.Expr.parameters (call.placeholders false)
  | ⟨name, distinct, arguments, _, _, _, window, _⟩ => by
    rw [Call.lower, Call.placeholders]
    refine adds_of_check fun empty => ?_
    rw [List.isEmpty_iff.mp empty]
    exact (adds_lowerArguments arguments).build fun _ => by simp

theorem adds_lowerArguments : (arguments : List Argument) →
    Adds [] (lowerArguments arguments) exprsParameters (argumentsPlaceholders false arguments)
  | [] => by
    rw [lowerArguments]
    exact adds_pure (.refl _)
  | ⟨some _, _⟩ :: _ => by
    rw [lowerArguments]
    exact adds_refuse _
  | ⟨none, value⟩ :: rest => by
    rw [lowerArguments]
    refine value.adds_lower.bind_beside (fun _ => ?_) rfl
    exact (adds_lowerArguments rest).build fun _ => by simp

theorem ArgumentValue.adds_lower : (value : ArgumentValue) →
    Adds [] value.lower Tree.Expr.parameters (value.placeholders false)
  | .expr expr => by
    rw [ArgumentValue.lower]
    exact expr.adds_lower
  | .star => by
    rw [ArgumentValue.lower]
    exact adds_pure (.refl _)
  | .qualifiedStar _ => by
    rw [ArgumentValue.lower]
    exact adds_pure (.refl _)

theorem adds_lowerOrder : (order : List OrderItem) →
    Adds [] (lowerOrder order) ordersParameters (orderPlaceholders false order)
  | [] => by
    rw [lowerOrder]
    exact adds_pure (.refl _)
  | ⟨expr, ascending, nullsFirst⟩ :: rest => by
    rw [lowerOrder]
    refine adds_of_objection fun _ => ?_
    refine expr.adds_lower.bind_beside (fun _ => ?_) rfl
    exact (adds_lowerOrder rest).build fun _ => by simp

theorem Query.adds_lower : (query : Query) →
    Adds [] query.lower Select.parameters (query.placeholders false)
  | ⟨withClause, body, order, limit, _, offset, _, fetch, _⟩ => by
    rw [Query.lower, Query.placeholders]
    refine adds_of_check fun empty => ?_
    rw [List.isEmpty_iff.mp empty]
    refine (adds_lowerWith withClause).bind_beside (fun _ => ?_) rfl
    refine body.adds_lower.bind_beside (fun _ => ?_) rfl
    refine (adds_lift fun _ => perm_fillTables).bind (fun _ => ?_) (Nat.zero_add _)
    refine (adds_lowerOrder order).bind_beside (fun _ => ?_) rfl
    refine (adds_lowerOption limit).bind_beside (fun _ => ?_) rfl
    refine (adds_lowerOption offset).bind_beside (fun _ => ?_) rfl
    refine adds_lift fun _ filled => (perm_fillRows filled).trans (.of_eq ?_)
    simp

theorem adds_lowerWith : (withClause : Option With) →
    Adds [] (lowerWith withClause) optionalWithsParameters (withPlaceholders false withClause)
  | none => by
    rw [lowerWith]
    exact adds_pure (.refl _)
  | some tables => by
    rw [lowerWith]
    exact tables.adds_lower.build fun _ => by simp

theorem With.adds_lower : (tables : With) →
    Adds [] tables.lower withsParameters (tables.placeholders false)
  | ⟨recursive, tables⟩ => by
    rw [With.lower]
    exact adds_of_objection fun _ => adds_lowerNamedQueries tables

theorem adds_lowerNamedQueries : (tables : List NamedQuery) →
    Adds [] (lowerNamedQueries tables) withsParameters (namedQueriesPlaceholders false tables)
  | [] => by
    rw [lowerNamedQueries]
    exact adds_pure (.refl _)
  | ⟨label, query, _⟩ :: rest => by
    rw [lowerNamedQueries]
    refine adds_of_check fun _ => ?_
    refine query.adds_lower.bind_beside (fun _ => ?_) rfl
    exact (adds_lowerNamedQueries rest).build fun _ => by simp

theorem Body.adds_lower : (body : Body) →
    Adds [] body.lower Select.parameters (body.placeholders false)
  | .select select => by
    rw [Body.lower]
    exact select.adds_lower
  | .query query => by
    rw [Body.lower]
    exact query.adds_lower
  | .operation kind quantifier left right => by
    rw [Body.lower]
    refine (fixed_keepsAll quantifier).bind_adds fun _ _ => ?_
    refine left.adds_lower.bind_beside (fun _ => ?_) rfl
    refine right.adds_lower.build fun _ => (perm_addOperation _ _).trans ?_
    simp [SetOperation.parameters]
  | .values _ => by
    rw [Body.lower]
    exact adds_refuse _
  | .phrase _ => by
    rw [Body.lower]
    exact adds_refuse _

theorem Select.adds_lower : (select : Select) →
    Adds [] select.lower Tree.Select.parameters (select.placeholders false)
  | ⟨distinct, top, items, into, tables, lateralViews, selection, grouping, distribution, having,
      windows, qualify⟩ => by
    rw [Select.lower, Select.placeholders]
    refine (steady_check _).bind_adds fun _ passed => ?_
    dsimp only at passed
    obtain ⟨rfl, rfl, rfl, rfl, rfl, rfl⟩ := passed
    refine (steady_distinct distinct).bind_adds fun _ none => ?_
    rw [none, Nat.zero_add]
    refine (adds_lowerItems items).bind_beside (fun _ => ?_) rfl
    refine (adds_lowerTables tables).bind_beside (fun _ => ?_) rfl
    refine (adds_lowerOption selection).bind_beside (fun _ => ?_) rfl
    refine grouping.adds_lower.bind_beside (fun _ => ?_) rfl
    refine (adds_lowerOption having).build fun _ => List.perm_iff_count.mpr fun number => ?_
    simp only [Select.empty, Select.ofBase, Base.ofKind, Tree.Select.parameters, Base.parameters,
      optionalExprsParameters, optionalSetOperationsParameters, optionalOrdersParameters,
      optionalWithsParameters, optionalLimitParameters, parameters_groups, List.count_append,
      List.count_nil]
    omega

theorem adds_lowerItems : (items : List SelectItem) →
    Adds [] (lowerItems items) exprsParameters (itemsPlaceholders false items)
  | [] => by
    rw [lowerItems]
    exact adds_pure (.refl _)
  | first :: rest => by
    rw [lowerItems]
    refine first.adds_lower.bind_beside (fun _ => ?_) rfl
    exact (adds_lowerItems rest).build fun _ => by simp

theorem SelectItem.adds_lower : (item : SelectItem) →
    Adds [] item.lower Tree.Expr.parameters (item.placeholders false)
  | .expr expr none => by
    rw [SelectItem.lower]
    exact expr.adds_lower
  | .expr expr (some label) => by
    rw [SelectItem.lower]
    exact expr.adds_lower.build fun _ => by simp
  | .star _ => by
    rw [SelectItem.lower]
    exact adds_pure (.refl _)
  | .qualifiedStar _ _ => by
    rw [SelectItem.lower]
    exact adds_pure (.refl _)

theorem Grouping.adds_lower : (grouping : Grouping) →
    Adds [] grouping.lower optionalExprsParameters (grouping.placeholders false)
  | .all => by
    rw [Grouping.lower]
    exact adds_refuse _
  | .keys [] => by
    rw [Grouping.lower]
    exact adds_pure (.refl _)
  | .keys (first :: rest) => by
    rw [Grouping.lower]
    refine first.adds_lower.bind_beside (fun _ => ?_) rfl
    exact (adds_lowerExprs rest).build fun _ => by simp

theorem adds_lowerTables : (tables : List FromItem) →
    Adds [] (lowerTables tables) optionalTableRefParameters (fromItemsPlaceholders false tables)
  | [] => by
    rw [lowerTables]
    exact adds_pure (.refl _)
  | [item] => by
    rw [lowerTables]
    exact item.adds_lower.build fun _ => by simp
  | first :: second :: rest => by
    rw [lowerTables]
    refine first.adds_lower.bind_beside (fun _ => ?_) rfl
    refine second.adds_lower.bind_beside (fun _ => ?_) rfl
    exact (adds_lowerFromItems rest).build fun _ => by simp

theorem adds_lowerFromItems : (items : List FromItem) →
    Adds [] (lowerFromItems items) tableRefsParameters (fromItemsPlaceholders false items)
  | [] => by
    rw [lowerFromItems]
    exact adds_pure (.refl _)
  | first :: rest => by
    rw [lowerFromItems]
    refine first.adds_lower.bind_beside (fun _ => ?_) rfl
    exact (adds_lowerFromItems rest).build fun _ => by simp

theorem FromItem.adds_lower : (item : FromItem) →
    Adds [] item.lower TableRef.parameters (item.placeholders false)
  | ⟨factor, joins⟩ => by
    rw [FromItem.lower]
    exact factor.adds_lower.bind (fun left => adds_lowerJoins joins left) rfl

theorem adds_lowerJoins : (joins : List Join) → (left : TableRef) →
    Adds left.parameters (lowerJoins left joins) TableRef.parameters (joinsPlaceholders false joins)
  | [], left => by
    rw [lowerJoins]
    exact adds_pure (.refl _)
  | ⟨operator, factor⟩ :: rest, left => by
    rw [lowerJoins]
    refine (fixed_joinKind operator).bind_adds fun kind _ => ?_
    refine factor.adds_lower.bind_beside (fun right => ?_) rfl
    refine (operator.adds_lower kind).bind_beside (fun condition => ?_) rfl
    exact adds_lowerJoins rest (.ofJoin ⟨left, right, condition.2, condition.1⟩)

theorem JoinOperator.adds_lower (kind : JoinKind) : (operator : JoinOperator) →
    Adds [] (operator.lower kind) (fun made => optionalExprParameters made.2)
      (operator.placeholders false)
  | .constrained _ (.on condition) => by
    rw [JoinOperator.lower]
    exact condition.adds_lower.build fun _ => by simp
  | .constrained _ (.using _) => by
    rw [JoinOperator.lower]
    exact adds_refuse _
  | .constrained _ .natural | .constrained _ .unmarked | .cross | .crossApply | .outerApply => by
    simp only [JoinOperator.lower, JoinOperator.placeholders]
    exact adds_pure (.refl _)

theorem TableFactor.adds_lower : (factor : TableFactor) →
    Adds [] factor.lower TableRef.parameters (factor.placeholders false)
  | .table name _ _ label _ => by
    rw [TableFactor.lower]
    refine (steady_tableName_parameters name).bind_adds fun table none => adds_pure (.of_eq ?_)
    rw [TableRef.parameters_label, none]
  | .derived true _ _ => by
    rw [TableFactor.lower]
    exact adds_refuse _
  | .derived false query label => by
    rw [TableFactor.lower]
    refine query.adds_lower.build fun _ => ?_
    simp [TableRef.subquery, TableRef.ofKind, TableRef.parameters]
  | .nested inner none => by
    rw [TableFactor.lower]
    exact inner.adds_lower.build fun _ => .refl _
  | .nested inner (some label) => by
    rw [TableFactor.lower]
    refine inner.adds_lower.build fun table => ?_
    rw [TableRef.parameters_label, List.nil_append]
  | .phrase _ _ _ => by
    rw [TableFactor.lower]
    exact adds_refuse _

end

/-- A tree has as many parameters as its query has placeholders, those left out that stand in parts
without a trace in the tree. -/
theorem Query.length_parameters {query : Query} {before after : Nat} {tree : Tree.Select}
    (lowered : query.lower before = .ok (tree, after)) :
    tree.parameters.length = query.placeholders false := by
  obtain ⟨-, numbered⟩ := query.adds_lower before tree after lowered
  rw [numbered.length_eq, List.nil_append, numbers, List.length_map, List.length_range']

theorem Query.length_parameters_fourPlaceholders :
    ∃ tree, fourPlaceholders.lower 0 = .ok (tree, 4) ∧ tree.parameters.length = 4 := by
  have done : (fourPlaceholders.lower 0).map Prod.snd = .ok 4 := by rfl
  cases lowered : fourPlaceholders.lower 0 with
  | error cause =>
    rw [lowered] at done
    cases done
  | ok outcome =>
    obtain ⟨tree, after⟩ := outcome
    rw [lowered] at done
    cases done
    exact ⟨tree, rfl, length_parameters lowered⟩

/-- How many placeholders a query has anywhere, and how many parameters its tree has. -/
def Statement.counts? : Statement → Option (Nat × Nat)
  | .query asked => do
    let (tree, _) ← (asked.lower 0).toOption
    return (asked.placeholders true, tree.parameters.length)
  | _ => none

/-- A placeholder among the arguments of a table has no parameter. -/
theorem parseText_tableArgument :
    (parseText Options.default.recursionLimit.toNat "SELECT a FROM f(?)".toList).toOption.map
      (·.map Statement.counts?) = some [some (1, 0)] := by
  decide +kernel

end Sql

end SqlImage
