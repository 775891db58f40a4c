/-
This file says that every tree made of a statement is well formed. Each function
that makes a part of a tree is shown to make a well-formed one, however many
placeholders came before; the functions call one another as the parts of a
statement lie inside one another, and so do the proofs. Putting the clauses of a
query into a select that is there already keeps it well formed too.
-/

import SqlImage.Lowering.Query
import SqlImage.Proofs.Filled
import SqlImage.Proofs.WellFormed

namespace SqlImage

open SqlImage.Tree

namespace Lowering

/-! ### Leaves -/

theorem makes_number (digits : String) : Makes (number digits) (·.WellFormed .operand) := by
  unfold number
  split
  · exact makes_pure (Expr.wellFormed_literalInt _)
  · split
    · exact makes_pure (Expr.wellFormed_literalFloat _)
    · exact makes_refuse _

theorem makes_literal (value : Sql.Literal) : Makes (literal value) (·.WellFormed .operand) := by
  unfold literal
  split
  · exact makes_number _
  · exact makes_pure (Expr.wellFormed_literalString _)
  · exact makes_pure (Expr.wellFormed_literalString _)
  · exact makes_pure (Expr.wellFormed_literalString _)
  · exact makes_pure (Expr.wellFormed_literalBool _)
  · exact makes_pure Expr.wellFormed_literalNull
  · exact (makes_any nextParameter).bind fun _ _ => makes_pure (Expr.wellFormed_parameter _)
  · exact makes_refuse _

/-- An operator with two operands has no more than these, and is no branch of a choice. -/
theorem makes_binaryOperator (operator : Sql.BinaryOperator) :
    Makes (binaryOperator operator) fun opType =>
      opType.forms = [.binary] ∧ opType ≠ .caseBranch := by
  cases operator <;> first | exact makes_pure ⟨rfl, by decide⟩ | exact makes_refuse _

theorem makes_timeField (field : Sql.Keyword) : Makes (timeField field) (· ≠ .none) := by
  unfold timeField
  split <;> first | exact makes_pure (by decide) | exact makes_refuse _

theorem makes_intervalField (unit : Sql.IntervalUnit) : Makes (intervalField unit) (· ≠ .none) := by
  unfold intervalField
  split
  · exact makes_timeField _
  · exact makes_refuse _
  · exact makes_refuse _

theorem wellFormed_negate (negated : Bool) {expr : Expr} (wellFormed : expr.WellFormed .operand) :
    (negate negated expr).WellFormed .operand := by
  cases negated with
  | false => exact wellFormed
  | true => exact Expr.wellFormed_unary rfl wellFormed

theorem makes_column (path : List Sql.Ident) : Makes (column path) (·.WellFormed .operand) := by
  induction path using column.induct with
  | case1 => exact makes_refuse _
  | case2 => exact makes_pure (Expr.wellFormed_columnRef _ _)
  | case3 => exact makes_pure (Expr.wellFormed_columnRef _ _)
  | case4 _ rest _ _ inductionHypothesis =>
    rw [column]
    · exact inductionHypothesis
    all_goals assumption

/-- A well-formed table reference that is not several tables side by side. -/
def Single (table : TableRef) : Prop := table.kind ≠ .crossProduct ∧ table.WellFormed

theorem makes_tableName (name : List Sql.Ident) : Makes (tableName name) Single := by
  unfold tableName
  split
  · exact makes_pure ⟨nofun, TableRef.wellFormed_named _ _⟩
  · exact makes_pure ⟨nofun, TableRef.wellFormed_named _ _⟩
  · exact makes_refuse _

/-- Only a join that is written as a cross join is taken for one. Whether one is natural is told by
its condition. -/
theorem makes_joinKind (operator : Sql.JoinOperator) :
    Makes (joinKind operator) fun kind => kind.isUnconditional = true → operator = .cross := by
  unfold joinKind
  split
  · exact makes_pure nofun
  · exact makes_pure nofun
  · exact makes_pure nofun
  · exact makes_pure nofun
  · exact makes_pure fun _ => rfl
  · exact makes_refuse _

/-! ### Clauses in their slots -/

section Clauses

variable {order : Option (List Order)} {limit : Option Limit} (someKey : order ≠ some [])
  (keys : ∀ list ∈ order, ∀ key ∈ list, key.WellFormed) (limits : ∀ rows ∈ limit, rows.WellFormed)

include someKey keys limits

theorem wellFormed_filledOperation {operation : SetOperation}
    {resultOrder : Option (List Order)} {resultLimit : Option Limit}
    (wellFormed : operation.WellFormed) (orderIn : Receives operation.resultOrder order resultOrder)
    (limitIn : Receives operation.resultLimit limit resultLimit) :
    SetOperation.WellFormed { operation with resultOrder, resultLimit } := by
  obtain ⟨nestedSelect, operationKey, operationKeys, operationLimits⟩ := wellFormed
  constructor
  · exact nestedSelect
  · obtain rfl | rfl := orderIn.eq_or_eq <;> assumption
  · obtain rfl | rfl := orderIn.eq_or_eq <;> assumption
  · obtain rfl | rfl := limitIn.eq_or_eq <;> assumption

/-- An order and a limit find their slots in a well-formed select. -/
theorem wellFormed_fillRows {compound : Bool} {select filled : Select}
    (wellFormed : select.WellFormed) (done : fillRows compound order limit select = .ok filled) :
    filled.WellFormed := by
  obtain ⟨kind, hints, tables, someItems, items, condition, groupBy, someOperation, operations,
    selectKey, selectKeys, withDescriptions, selectLimits⟩ := wellFormed
  cases fillRows_eq_ok.mp done with
  | ofSelect isAlone orderIn limitIn =>
    constructor
    case someKey | order => obtain rfl | rfl := orderIn.eq_or_eq <;> assumption
    case limit => obtain rfl | rfl := limitIn.eq_or_eq <;> assumption
    all_goals assumption
  | ofLast isCompound parts orderIn limitIn =>
    obtain ⟨earlierWell, lastWell⟩ := List.forall_mem_append.mp (operations _ parts)
    have changed := wellFormed_filledOperation someKey keys limits
      (List.forall_mem_singleton.mp lastWell) orderIn limitIn
    exact ⟨kind, hints, tables, someItems, items, condition, groupBy,
      fun empty => List.append_ne_nil_of_right_ne_nil _ (List.cons_ne_nil _ _)
        (Option.some.inj empty),
      forall_mem_some (List.forall_mem_append.mpr
        ⟨earlierWell, List.forall_mem_singleton.mpr changed⟩),
      selectKey, selectKeys, withDescriptions, selectLimits⟩

end Clauses

theorem wellFormed_fillTables {tables : Option (List With)} {select filled : Select}
    (tablesWell : ∀ list ∈ tables, ∀ table ∈ list, table.WellFormed)
    (wellFormed : select.WellFormed) (done : fillTables tables select = .ok filled) :
    filled.WellFormed := by
  obtain ⟨kind, hints, fromTable, someItems, items, condition, groupBy, someOperation, operations,
    someKey, keys, withDescriptions, limits⟩ := wellFormed
  obtain ⟨held, heldIn, rfl⟩ := fillTables_eq_ok.mp done
  constructor
  case withDescriptions => obtain rfl | rfl := heldIn.eq_or_eq <;> assumption
  all_goals assumption

theorem wellFormed_addOperation {operation : SetOperation} {select : Select}
    (operationWell : operation.WellFormed) (wellFormed : select.WellFormed) :
    (addOperation operation select).WellFormed := by
  obtain ⟨kind, hints, fromTable, someItems, items, condition, groupBy, someOperation, operations,
    someKey, keys, withDescriptions, limits⟩ := wellFormed
  have held : ∀ operation ∈ select.setOperations.getD [], operation.WellFormed := by
    cases slot : select.setOperations with
    | none => nofun
    | some list => exact operations list slot
  constructor
  case someOperation =>
    exact fun empty =>
      List.append_ne_nil_of_right_ne_nil _ (List.cons_ne_nil _ _) (Option.some.inj empty)
  case operations =>
    refine forall_mem_some fun other member => ?_
    obtain old | new := List.mem_append.mp member
    · exact held other old
    · exact List.mem_singleton.mp new ▸ operationWell
  all_goals assumption

end Lowering

namespace Sql

open Lowering

/-! ### Clauses that may be left out -/

theorem sort_ne_some_nil (keys : List Order) : sort keys ≠ some [] := by
  cases keys <;> exact nofun

theorem wellFormed_sort {keys : List Order} (wellFormed : ∀ key ∈ keys, key.WellFormed) :
    ∀ list ∈ sort keys, ∀ key ∈ list, key.WellFormed := by
  cases keys with
  | nil => nofun
  | cons => exact forall_mem_some wellFormed

theorem wellFormed_rows {limit offset : Option Tree.Expr}
    (limitWell : ∀ count ∈ limit, count.WellFormed .operand)
    (offsetWell : ∀ count ∈ offset, count.WellFormed .operand) :
    ∀ clause ∈ rows limit offset, clause.WellFormed := by
  match limit, offset with
  | none, none => nofun
  | some _, _ => exact forall_mem_some ⟨.inl rfl, limitWell, offsetWell⟩
  | none, some _ => exact forall_mem_some ⟨.inr rfl, limitWell, offsetWell⟩

theorem wellFormed_groups {columns : Option (List Tree.Expr)} {having : Option Tree.Expr}
    (someKey : columns ≠ some []) (keys : ∀ list ∈ columns, ∀ key ∈ list, key.WellFormed .operand)
    (havingWell : ∀ condition ∈ having, condition.WellFormed .operand) :
    ∀ clause ∈ groups columns having, clause.WellFormed := by
  match columns, having with
  | none, none => nofun
  | some _, _ => exact forall_mem_some ⟨someKey, .inl rfl, keys, havingWell⟩
  | none, some _ => exact forall_mem_some ⟨someKey, .inr rfl, keys, havingWell⟩

/-! ### The visit -/

/-- Making the tree of what subscripts are applied to keeps it well formed. -/
theorem makes_subscripts (subscripts : List Expr) {operand : Tree.Expr}
    (operandWell : operand.WellFormed .operand) :
    Makes (subscripts.foldlM (fun array index => return .arrayIndex array (← subscript index))
      operand) (·.WellFormed .operand) := by
  induction subscripts generalizing operand with
  | nil => exact makes_pure operandWell
  | cons index rest inductionHypothesis =>
    rw [List.foldlM_cons]
    have indexed := (makes_any (subscript index)).bind fun index _ =>
      makes_pure (Expr.wellFormed_arrayIndex operandWell index)
    exact indexed.bind fun _ arrayWell => inductionHypothesis arrayWell

mutual

theorem Expr.makes_lower : (expr : Expr) → Makes expr.lower (·.WellFormed .operand)
  | .column path => by
    rw [Expr.lower]
    exact makes_column path
  | .star => by
    rw [Expr.lower]
    exact makes_pure (Expr.wellFormed_star _)
  | .qualifiedStar _ => by
    rw [Expr.lower]
    exact makes_pure (Expr.wellFormed_star _)
  | .literal value => by
    rw [Expr.lower]
    exact makes_literal value
  | .nested inner => by
    rw [Expr.lower]
    exact inner.makes_lower
  | .unary .not operand => by
    rw [Expr.lower]
    refine operand.makes_lower.bind fun _ operandWell => ?_
    exact makes_pure (Expr.wellFormed_unary rfl operandWell)
  | .unary .minus operand => by
    rw [Expr.lower]
    refine operand.makes_lower.bind fun _ operandWell => ?_
    exact makes_pure (Expr.wellFormed_unary rfl operandWell)
  | .unary .plus operand => by
    rw [Expr.lower]
    exact operand.makes_lower
  | .unary .factorial _ => by
    rw [Expr.lower]
    exact makes_refuse _
  | .binary operator left right => by
    rw [Expr.lower]
    refine (makes_binaryOperator operator).bind fun _ ⟨forms, isOther⟩ => ?_
    refine left.makes_lower.bind fun _ leftWell => ?_
    refine right.makes_lower.bind fun _ rightWell => ?_
    exact makes_pure (Expr.wellFormed_binary forms isOther leftWell rightWell)
  | .isNull negated operand => by
    rw [Expr.lower]
    refine operand.makes_lower.bind fun _ operandWell => ?_
    exact makes_pure (wellFormed_negate negated (Expr.wellFormed_unary rfl operandWell))
  | .like false _ _ _ (some _) => by
    rw [Expr.lower]
    exact makes_refuse _
  | .like true _ _ _ (some _) => by
    rw [Expr.lower]
    exact makes_refuse _
  | .like false negated operand pattern none => by
    rw [Expr.lower]
    refine operand.makes_lower.bind fun _ operandWell => ?_
    refine pattern.makes_lower.bind fun _ patternWell => ?_
    cases negated with
    | false => exact makes_pure (Expr.wellFormed_binary rfl (by decide) operandWell patternWell)
    | true => exact makes_pure (Expr.wellFormed_binary rfl (by decide) operandWell patternWell)
  | .like true negated operand pattern none => by
    rw [Expr.lower]
    refine operand.makes_lower.bind fun _ operandWell => ?_
    refine pattern.makes_lower.bind fun _ patternWell => ?_
    exact makes_pure (wellFormed_negate negated
      (Expr.wellFormed_binary rfl (by decide) operandWell patternWell))
  | .between negated operand low high => by
    rw [Expr.lower]
    refine operand.makes_lower.bind fun _ operandWell => ?_
    refine low.makes_lower.bind fun _ lowWell => ?_
    refine high.makes_lower.bind fun _ highWell => ?_
    exact makes_pure (wellFormed_negate negated
      (Expr.wellFormed_between operandWell lowWell highWell))
  | .inList negated operand list => by
    rw [Expr.lower]
    refine operand.makes_lower.bind fun _ operandWell => ?_
    refine (makes_lowerExprs list).bind fun _ listWell => ?_
    exact makes_pure (wellFormed_negate negated (Expr.wellFormed_inList operandWell listWell))
  | .inQuery negated operand query => by
    rw [Expr.lower]
    refine operand.makes_lower.bind fun _ operandWell => ?_
    refine query.makes_lower.bind fun _ queryWell => ?_
    exact makes_pure (wellFormed_negate negated (Expr.wellFormed_inSelect operandWell queryWell))
  | .hasRow negated query => by
    rw [Expr.lower]
    refine query.makes_lower.bind fun _ queryWell => ?_
    exact makes_pure (wellFormed_negate negated (Expr.wellFormed_hasRow queryWell))
  | .subquery query => by
    rw [Expr.lower]
    refine query.makes_lower.bind fun _ queryWell => ?_
    exact makes_pure (Expr.wellFormed_subquery queryWell)
  | .call call => by
    rw [Expr.lower]
    exact call.makes_lower
  | .case operand branches otherwise => by
    rw [Expr.lower]
    refine (makes_lowerOption operand).bind fun _ operandWell => ?_
    refine (makes_lowerBranches branches).bind fun _ branchesWell => ?_
    refine (makes_lowerOption otherwise).bind fun _ otherwiseWell => ?_
    exact makes_pure (Expr.wellFormed_case operandWell branchesWell otherwiseWell)
  | .extract field operand => by
    rw [Expr.lower]
    refine (makes_timeField field).bind fun _ isField => ?_
    refine operand.makes_lower.bind fun _ operandWell => ?_
    exact makes_pure (Expr.wellFormed_extract isField operandWell)
  | .interval value unit => by
    rw [Expr.lower]
    refine (makes_intervalField unit).bind fun _ isField => ?_
    refine value.makes_lower.bind fun _ valueWell => ?_
    exact makes_pure (Expr.wellFormed_interval isField valueWell)
  | .array _ elements => by
    rw [Expr.lower]
    refine (makes_lowerExprs elements).bind fun _ elementsWell => ?_
    exact makes_pure (Expr.wellFormed_array elementsWell)
  | .index operand subscripts => by
    rw [Expr.lower]
    refine operand.makes_lower.bind fun _ operandWell => ?_
    exact makes_subscripts subscripts operandWell
  | .phrase _ => by
    rw [Expr.lower]
    exact makes_refuse _

theorem makes_lowerExprs : (exprs : List Expr) →
    Makes (lowerExprs exprs) fun made => ∀ expr ∈ made, expr.WellFormed .operand
  | [] => by
    rw [lowerExprs]
    exact makes_pure nofun
  | first :: rest => by
    rw [lowerExprs]
    refine first.makes_lower.bind fun _ firstWell => ?_
    refine (makes_lowerExprs rest).bind fun _ restWell => ?_
    exact makes_pure (List.forall_mem_cons.mpr ⟨firstWell, restWell⟩)

theorem makes_lowerOption : (expr : Option Expr) →
    Makes (lowerOption expr) fun made => ∀ expr ∈ made, expr.WellFormed .operand
  | none => by
    rw [lowerOption]
    exact makes_pure nofun
  | some expr => by
    rw [lowerOption]
    refine expr.makes_lower.bind fun _ exprWell => ?_
    exact makes_pure (forall_mem_some exprWell)

theorem makes_lowerBranches : (branches : List Branch) →
    Makes (lowerBranches branches) fun made => ∀ branch ∈ made, branch.WellFormed .branch
  | [] => by
    rw [lowerBranches]
    exact makes_pure nofun
  | ⟨condition, result⟩ :: rest => by
    rw [lowerBranches]
    refine condition.makes_lower.bind fun _ conditionWell => ?_
    refine result.makes_lower.bind fun _ resultWell => ?_
    refine (makes_lowerBranches rest).bind fun _ restWell => ?_
    exact makes_pure (List.forall_mem_cons.mpr
      ⟨Expr.wellFormed_caseBranch conditionWell resultWell, restWell⟩)

theorem Call.makes_lower : (call : Call) → Makes call.lower (·.WellFormed .operand)
  | ⟨name, distinct, arguments, _, _, _, window, _⟩ => by
    rw [Call.lower]
    refine makes_of_check ?_
    refine (makes_lowerArguments arguments).bind fun _ argumentsWell => ?_
    exact makes_pure (Expr.wellFormed_functionRef _ distinct argumentsWell)

theorem makes_lowerArguments : (arguments : List Argument) →
    Makes (lowerArguments arguments) fun made => ∀ expr ∈ made, expr.WellFormed .operand
  | [] => by
    rw [lowerArguments]
    exact makes_pure nofun
  | ⟨some _, _⟩ :: _ => by
    rw [lowerArguments]
    exact makes_refuse _
  | ⟨none, value⟩ :: rest => by
    rw [lowerArguments]
    refine value.makes_lower.bind fun _ valueWell => ?_
    refine (makes_lowerArguments rest).bind fun _ restWell => ?_
    exact makes_pure (List.forall_mem_cons.mpr ⟨valueWell, restWell⟩)

theorem ArgumentValue.makes_lower : (value : ArgumentValue) →
    Makes value.lower (·.WellFormed .operand)
  | .expr expr => by
    rw [ArgumentValue.lower]
    exact expr.makes_lower
  | .star => by
    rw [ArgumentValue.lower]
    exact makes_pure (Expr.wellFormed_star _)
  | .qualifiedStar _ => by
    rw [ArgumentValue.lower]
    exact makes_pure (Expr.wellFormed_star _)

theorem makes_lowerOrder : (order : List OrderItem) →
    Makes (lowerOrder order) fun made => ∀ key ∈ made, key.WellFormed
  | [] => by
    rw [lowerOrder]
    exact makes_pure nofun
  | ⟨expr, ascending, nullsFirst⟩ :: rest => by
    rw [lowerOrder]
    refine makes_of_objection ?_
    refine expr.makes_lower.bind fun _ exprWell => ?_
    refine (makes_lowerOrder rest).bind fun _ restWell => ?_
    exact makes_pure (List.forall_mem_cons.mpr ⟨⟨exprWell⟩, restWell⟩)

theorem Query.makes_lower : (query : Query) → Makes query.lower Select.WellFormed
  | ⟨withClause, body, order, limit, _, offset, _, fetch, _⟩ => by
    rw [Query.lower]
    refine makes_of_check ?_
    refine (makes_lowerWith withClause).bind fun _ tablesWell => ?_
    refine body.makes_lower.bind fun _ bodyWell => ?_
    refine (makes_lift fun _ => wellFormed_fillTables tablesWell bodyWell).bind
      fun _ selectWell => ?_
    refine (makes_lowerOrder order).bind fun keys keysWell => ?_
    refine (makes_lowerOption limit).bind fun _ limitWell => ?_
    refine (makes_lowerOption offset).bind fun _ offsetWell => ?_
    exact makes_lift fun _ => wellFormed_fillRows (sort_ne_some_nil keys)
      (wellFormed_sort keysWell) (wellFormed_rows limitWell offsetWell) selectWell

theorem makes_lowerWith : (withClause : Option With) →
    Makes (lowerWith withClause) fun made => ∀ list ∈ made, ∀ table ∈ list, table.WellFormed
  | none => by
    rw [lowerWith]
    exact makes_pure nofun
  | some tables => by
    rw [lowerWith]
    refine tables.makes_lower.bind fun _ tablesWell => ?_
    exact makes_pure (forall_mem_some tablesWell)

theorem With.makes_lower : (tables : With) →
    Makes tables.lower fun made => ∀ table ∈ made, table.WellFormed
  | ⟨recursive, tables⟩ => by
    rw [With.lower]
    exact makes_of_objection (makes_lowerNamedQueries tables)

theorem makes_lowerNamedQueries : (tables : List NamedQuery) →
    Makes (lowerNamedQueries tables) fun made => ∀ table ∈ made, table.WellFormed
  | [] => by
    rw [lowerNamedQueries]
    exact makes_pure nofun
  | ⟨label, query, _⟩ :: rest => by
    rw [lowerNamedQueries]
    refine makes_of_check ?_
    refine query.makes_lower.bind fun _ queryWell => ?_
    refine (makes_lowerNamedQueries rest).bind fun _ restWell => ?_
    exact makes_pure (List.forall_mem_cons.mpr ⟨⟨queryWell⟩, restWell⟩)

theorem Body.makes_lower : (body : Body) → Makes body.lower Select.WellFormed
  | .select select => by
    rw [Body.lower]
    exact select.makes_lower
  | .query query => by
    rw [Body.lower]
    exact query.makes_lower
  | .operation kind quantifier left right => by
    rw [Body.lower]
    refine (makes_any (keepsAll quantifier)).bind fun _ _ => ?_
    refine left.makes_lower.bind fun _ leftWell => ?_
    refine right.makes_lower.bind fun _ rightWell => ?_
    exact makes_pure (wellFormed_addOperation ⟨rightWell, nofun, nofun, nofun⟩ leftWell)
  | .values _ => by
    rw [Body.lower]
    exact makes_refuse _
  | .phrase _ => by
    rw [Body.lower]
    exact makes_refuse _

theorem Select.makes_lower : (select : Select) → Makes select.lower Select.WellFormed
  | ⟨distinct, top, items, into, tables, lateralViews, selection, grouping, distribution, having,
      windows, qualify⟩ => by
    rw [Select.lower]
    refine (makes_any _).bind fun _ _ => ?_
    refine (makes_any distinct.lower).bind fun _ _ => ?_
    refine (makes_lowerItems items).bind fun _ itemsWell => ?_
    refine (makes_lowerTables tables).bind fun _ tablesWell => ?_
    refine (makes_lowerOption selection).bind fun _ selectionWell => ?_
    refine grouping.makes_lower.bind fun _ ⟨someKey, keysWell⟩ => ?_
    refine (makes_lowerOption having).bind fun _ havingWell => ?_
    exact makes_pure ⟨rfl, rfl, tablesWell, rfl, forall_mem_some itemsWell, selectionWell,
      wellFormed_groups someKey keysWell havingWell, nofun, nofun, nofun, nofun, nofun, nofun⟩

theorem makes_lowerItems : (items : List SelectItem) →
    Makes (lowerItems items) fun made => ∀ item ∈ made, item.WellFormed .item
  | [] => by
    rw [lowerItems]
    exact makes_pure nofun
  | first :: rest => by
    rw [lowerItems]
    refine first.makes_lower.bind fun _ firstWell => ?_
    refine (makes_lowerItems rest).bind fun _ restWell => ?_
    exact makes_pure (List.forall_mem_cons.mpr ⟨firstWell, restWell⟩)

theorem SelectItem.makes_lower : (item : SelectItem) → Makes item.lower (·.WellFormed .item)
  | .expr expr none => by
    rw [SelectItem.lower]
    exact fun before made after done => (expr.makes_lower before made after done).item
  | .expr expr (some label) => by
    rw [SelectItem.lower]
    refine expr.makes_lower.bind fun _ exprWell => ?_
    exact makes_pure (exprWell.item.withAlias label.value)
  | .star _ => by
    rw [SelectItem.lower]
    exact makes_pure (Expr.wellFormed_star _).item
  | .qualifiedStar _ _ => by
    rw [SelectItem.lower]
    exact makes_pure (Expr.wellFormed_star _).item

theorem Grouping.makes_lower : (grouping : Grouping) → Makes grouping.lower fun made =>
    made ≠ some [] ∧ ∀ list ∈ made, ∀ key ∈ list, key.WellFormed .operand
  | .all => by
    rw [Grouping.lower]
    exact makes_refuse _
  | .keys [] => by
    rw [Grouping.lower]
    exact makes_pure ⟨nofun, nofun⟩
  | .keys (first :: rest) => by
    rw [Grouping.lower]
    refine first.makes_lower.bind fun _ firstWell => ?_
    refine (makes_lowerExprs rest).bind fun _ restWell => ?_
    exact makes_pure ⟨nofun, forall_mem_some (List.forall_mem_cons.mpr ⟨firstWell, restWell⟩)⟩

theorem makes_lowerTables : (tables : List FromItem) →
    Makes (lowerTables tables) fun made => ∀ table ∈ made, table.WellFormed
  | [] => by
    rw [lowerTables]
    exact makes_pure nofun
  | [item] => by
    rw [lowerTables]
    refine item.makes_lower.bind fun _ itemWell => ?_
    exact makes_pure (forall_mem_some itemWell.2)
  | first :: second :: rest => by
    rw [lowerTables]
    refine first.makes_lower.bind fun _ firstSingle => ?_
    refine second.makes_lower.bind fun _ secondSingle => ?_
    refine (makes_lowerFromItems rest).bind fun _ restSingle => ?_
    have single := List.forall_mem_cons.mpr
      ⟨firstSingle, List.forall_mem_cons.mpr ⟨secondSingle, restSingle⟩⟩
    exact makes_pure (forall_mem_some (TableRef.wellFormed_crossProduct (Nat.le_add_left 2 _)
      (fun table member => (single table member).1) fun table member => (single table member).2))

theorem makes_lowerFromItems : (items : List FromItem) →
    Makes (lowerFromItems items) fun made => ∀ table ∈ made, Single table
  | [] => by
    rw [lowerFromItems]
    exact makes_pure nofun
  | first :: rest => by
    rw [lowerFromItems]
    refine first.makes_lower.bind fun _ firstWell => ?_
    refine (makes_lowerFromItems rest).bind fun _ restWell => ?_
    exact makes_pure (List.forall_mem_cons.mpr ⟨firstWell, restWell⟩)

theorem FromItem.makes_lower : (item : FromItem) → Makes item.lower Single
  | ⟨factor, joins⟩ => by
    rw [FromItem.lower]
    refine factor.makes_lower.bind fun _ factorWell => ?_
    exact makes_lowerJoins joins factorWell

theorem makes_lowerJoins : (joins : List Join) → {left : TableRef} → Single left →
    Makes (lowerJoins left joins) Single
  | [], _, left => by
    rw [lowerJoins]
    exact makes_pure left
  | ⟨operator, factor⟩ :: rest, _, left => by
    rw [lowerJoins]
    refine (makes_joinKind operator).bind fun kind isCross => ?_
    refine factor.makes_lower.bind fun _ right => ?_
    refine (operator.makes_lower isCross).bind fun _ ⟨unconditional, conditionWell⟩ => ?_
    exact makes_lowerJoins rest ⟨nofun, TableRef.wellFormed_ofJoin
      ⟨left.1, right.1, left.2, right.2, unconditional, conditionWell⟩⟩

theorem JoinOperator.makes_lower : (operator : JoinOperator) → {kind : JoinKind} →
    (kind.isUnconditional = true → operator = .cross) →
    Makes (operator.lower kind) fun made => (made.1.isUnconditional = true → made.2 = none) ∧
      ∀ condition ∈ made.2, condition.WellFormed .operand
  | .constrained _ (.on condition), _, isCross => by
    rw [JoinOperator.lower]
    refine condition.makes_lower.bind fun _ conditionWell => ?_
    exact makes_pure
      ⟨fun unconditional => (nomatch isCross unconditional), forall_mem_some conditionWell⟩
  | .constrained _ (.using _), _, _ => by
    rw [JoinOperator.lower]
    exact makes_refuse _
  | .constrained _ .natural, _, _ => by
    rw [JoinOperator.lower]
    exact makes_pure ⟨fun _ => rfl, nofun⟩
  | .constrained _ .unmarked, _, _ => by
    rw [JoinOperator.lower]
    · exact makes_pure ⟨fun _ => rfl, nofun⟩
    all_goals nofun
  | .cross, _, _ => by
    rw [JoinOperator.lower]
    · exact makes_pure ⟨fun _ => rfl, nofun⟩
    all_goals nofun
  | .crossApply, _, _ => by
    rw [JoinOperator.lower]
    · exact makes_pure ⟨fun _ => rfl, nofun⟩
    all_goals nofun
  | .outerApply, _, _ => by
    rw [JoinOperator.lower]
    · exact makes_pure ⟨fun _ => rfl, nofun⟩
    all_goals nofun

theorem TableFactor.makes_lower : (factor : TableFactor) → Makes factor.lower Single
  | .table name _ _ label _ => by
    rw [TableFactor.lower]
    refine (makes_tableName name).bind fun _ ⟨single, tableWell⟩ => ?_
    exact makes_pure ⟨single, tableWell.withLabel single _⟩
  | .derived true _ _ => by
    rw [TableFactor.lower]
    exact makes_refuse _
  | .derived false query label => by
    rw [TableFactor.lower]
    refine query.makes_lower.bind fun _ queryWell => ?_
    exact makes_pure ⟨nofun, (TableRef.wellFormed_subquery queryWell).withLabel nofun _⟩
  | .nested inner none => by
    rw [TableFactor.lower]
    refine inner.makes_lower.bind fun _ innerWell => ?_
    exact makes_pure innerWell
  | .nested inner (some label) => by
    rw [TableFactor.lower]
    refine inner.makes_lower.bind fun _ ⟨single, innerWell⟩ => ?_
    exact makes_pure ⟨single, innerWell.withLabel single _⟩
  | .phrase _ _ _ => by
    rw [TableFactor.lower]
    exact makes_refuse _

end

end Sql

end SqlImage
