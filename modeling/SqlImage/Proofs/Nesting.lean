/-
This file says which clauses of a query end up side by side in its tree. A query may
have clauses at every level of parentheses, while a select has one slot of each
kind, and so has a set operation. Levels around the same select or the same set
operation become one level, and the named queries of a left side become those of
the whole; only two clauses for one slot are refused. Hence the tree tells the
levels of a query from one another if no two of them meet, and not otherwise: a
limit inside parentheses is taken for one that follows the sort outside.
-/

import SqlImage.Proofs.Combination

namespace SqlImage

/-! ### Levels of clauses -/

/-- Which clauses stand around which selects and set operations. Each level is a query with clauses
of its own; those of named queries are nested in it. -/
inductive Nesting where
  | select
  | operation (kind : Tree.SetKind) (isAll : Bool) (left right : Nesting)
  | level (tables : Option (List Nesting)) (isSorted isLimited : Bool) (inner : Nesting)

namespace Nesting

/-- Whether the outermost clauses belong to a query and not to an operand of a set operation. -/
def isLevel : Nesting → Bool
  | .level .. => true
  | _ => false

/-- Whether the outermost clauses have named queries among them. -/
def hasTables : Nesting → Bool
  | .level tables _ _ _ => tables.isSome
  | _ => false

/-- What is written inside a query. Parentheses without a clause are no level. -/
def around (tables : Option (List Nesting)) (isSorted isLimited : Bool) (inner : Nesting) :
    Nesting :=
  match tables, isSorted, isLimited with
  | none, false, false => inner
  | tables, isSorted, isLimited => .level tables isSorted isLimited inner

/-- Clauses put into the level that is there already. No two of them may have the same slot. -/
def enclose? (tables : Option (List Nesting)) (isSorted isLimited : Bool) :
    Nesting → Option Nesting
  | .level innerTables innerSorted innerLimited inner =>
    if (tables.isSome && innerTables.isSome) || (isSorted && innerSorted) ||
        (isLimited && innerLimited) then none
    else some (.level (tables.or innerTables) (isSorted || innerSorted) (isLimited || innerLimited)
      inner)
  | inner => some (around tables isSorted isLimited inner)

/-- Two sides combined. The named queries of the left side become those of both. -/
def combine (kind : Tree.SetKind) (isAll : Bool) (left right : Nesting) : Nesting :=
  match left with
  | .level tables isSorted isLimited inner =>
    around tables false false (.operation kind isAll (around none isSorted isLimited inner) right)
  | left => .operation kind isAll left right

mutual

/-- The levels that a tree can hold, unless two clauses have the same slot. -/
def merged? : Nesting → Option Nesting
  | .select => some .select
  | .operation kind isAll left right =>
    return combine kind isAll (← left.merged?) (← right.merged?)
  | .level tables isSorted isLimited inner => do
    let tables ← mergedTables? tables
    let inner ← inner.merged?
    inner.enclose? tables isSorted isLimited

/-- The levels of named queries that may be absent. -/
def mergedTables? : Option (List Nesting) → Option (Option (List Nesting))
  | none => some none
  | some tables => return some (← mergedList? tables)

/-- The levels of named queries. -/
def mergedList? : List Nesting → Option (List Nesting)
  | [] => some []
  | first :: rest => return (← first.merged?) :: (← mergedList? rest)

end

mutual

/-- Whether a tree can hold all levels as they are: none stands directly around another one, and no
left side of a set operation has named queries of its own. -/
def isTidy : Nesting → Bool
  | .select => true
  | .operation _ _ left right => !left.hasTables && left.isTidy && right.isTidy
  | .level tables isSorted isLimited inner =>
    (tables.isSome || isSorted || isLimited) && !inner.isLevel && tablesTidy tables && inner.isTidy

/-- Whether a tree can hold the levels of named queries that may be absent. -/
def tablesTidy : Option (List Nesting) → Bool
  | none => true
  | some tables => listTidy tables

/-- Whether a tree can hold the levels of named queries. -/
def listTidy : List Nesting → Bool
  | [] => true
  | first :: rest => first.isTidy && listTidy rest

end

section Around

variable {tables otherTables : Option (List Nesting)}
  {isSorted isLimited otherSorted otherLimited : Bool} {inner : Nesting}

theorem around_eq_level (clause : (tables.isSome || isSorted || isLimited) = true)
    (inner : Nesting) :
    around tables isSorted isLimited inner = .level tables isSorted isLimited inner := by
  unfold around
  split
  · cases clause
  · rfl

theorem enclose?_of_isLevel_eq_false (isInner : inner.isLevel = false) :
    inner.enclose? tables isSorted isLimited = some (around tables isSorted isLimited inner) := by
  cases inner with
  | level => cases isInner
  | select => rfl
  | operation => rfl

theorem enclose?_level (innerTables : Option (List Nesting)) (innerSorted innerLimited : Bool)
    (inner : Nesting) :
    (level innerTables innerSorted innerLimited inner).enclose? tables isSorted isLimited =
      if (tables.isSome && innerTables.isSome) || (isSorted && innerSorted) ||
          (isLimited && innerLimited) then none
      else some (.level (tables.or innerTables) (isSorted || innerSorted)
        (isLimited || innerLimited) inner) := rfl

theorem enclose?_none (nesting : Nesting) : nesting.enclose? none false false = some nesting := by
  cases nesting <;> rfl

/-- Clauses join those that are there if each of them has its slot for itself. -/
theorem enclose?_around (isInner : inner.isLevel = false)
    (tablesFit : otherTables = none ∨ tables = none)
    (sortFits : otherSorted = false ∨ isSorted = false)
    (limitFits : otherLimited = false ∨ isLimited = false) :
    (around otherTables otherSorted otherLimited inner).enclose? tables isSorted isLimited =
      some (around (tables.or otherTables) (isSorted || otherSorted) (isLimited || otherLimited)
        inner) := by
  cases clause : otherTables.isSome || otherSorted || otherLimited with
  | false =>
    obtain ⟨⟨rfl, rfl⟩, rfl⟩ :
        (otherTables = none ∧ otherSorted = false) ∧ otherLimited = false := by
      simpa using clause
    rw [Option.or_none, Bool.or_false, Bool.or_false]
    exact enclose?_of_isLevel_eq_false isInner
  | true =>
    have apart : ((tables.isSome && otherTables.isSome) || (isSorted && otherSorted) ||
        (isLimited && otherLimited)) = false := by
      rcases tablesFit with rfl | rfl <;> rcases sortFits with rfl | rfl <;>
        rcases limitFits with rfl | rfl <;> simp
    have together : ((tables.or otherTables).isSome || (isSorted || otherSorted) ||
        (isLimited || otherLimited)) = true := by
      rw [Bool.or_eq_true, Bool.or_eq_true] at clause
      obtain (held | held) | held := clause <;> simp [held]
    rw [around_eq_level clause, enclose?_level, apart, around_eq_level together]
    rfl

/-- Named queries may be put into their slot before a sort and a limit. -/
theorem enclose?_tables_rows {nesting middle filled : Nesting}
    (tablesDone : nesting.enclose? tables false false = some middle)
    (rowsDone : middle.enclose? none isSorted isLimited = some filled) :
    nesting.enclose? tables isSorted isLimited = some filled := by
  cases nesting with
  | level innerTables innerSorted innerLimited inner =>
    rw [enclose?_level] at tablesDone
    split at tablesDone
    · cases tablesDone
    · rename_i fits
      cases tablesDone
      have apart : (tables.isSome && innerTables.isSome) = false := by simpa using fits
      rw [enclose?_level, apart]
      exact rowsDone
  | select | operation =>
    cases tablesDone
    rw [enclose?_around rfl (.inr rfl) (.inl rfl) (.inl rfl), Option.none_or, Bool.or_false,
      Bool.or_false] at rowsDone
    exact rowsDone

theorem combine_around (kind : Tree.SetKind) (isAll : Bool) (right : Nesting)
    (isInner : inner.isLevel = false) :
    combine kind isAll (around tables isSorted isLimited inner) right =
      around tables false false
        (.operation kind isAll (around none isSorted isLimited inner) right) := by
  rcases tables with _ | tables <;> cases isSorted <;> cases isLimited
  case none.false.false => cases inner <;> first | rfl | cases isInner
  all_goals rfl

end Around

/-! ### Levels that a tree can hold -/

theorem combine_of_isTidy (kind : Tree.SetKind) (isAll : Bool) {left : Nesting} (right : Nesting)
    (alone : left.hasTables = false) (tidy : left.isTidy = true) :
    combine kind isAll left right = .operation kind isAll left right := by
  cases left with
  | select => rfl
  | operation => rfl
  | level tables isSorted isLimited inner =>
    rw [isTidy, Bool.and_eq_true, Bool.and_eq_true, Bool.and_eq_true] at tidy
    obtain ⟨⟨⟨clause, -⟩, -⟩, -⟩ := tidy
    rcases tables with _ | tables
    · rw [combine, around_eq_level clause]
      rfl
    · cases alone

mutual

theorem merged?_of_isTidy : (nesting : Nesting) → nesting.isTidy = true →
    nesting.merged? = some nesting
  | .select, _ => by
    rw [merged?]
  | .operation kind isAll left right, tidy => by
    rw [isTidy, Bool.and_eq_true, Bool.and_eq_true, Bool.not_eq_true'] at tidy
    obtain ⟨⟨alone, leftTidy⟩, rightTidy⟩ := tidy
    rw [merged?, left.merged?_of_isTidy leftTidy, right.merged?_of_isTidy rightTidy]
    exact congrArg some (combine_of_isTidy kind isAll right alone leftTidy)
  | .level tables isSorted isLimited inner, tidy => by
    rw [isTidy, Bool.and_eq_true, Bool.and_eq_true, Bool.and_eq_true, Bool.not_eq_true'] at tidy
    obtain ⟨⟨⟨clause, isInner⟩, tablesTidy⟩, innerTidy⟩ := tidy
    rw [merged?, mergedTables?_of_tidy tables tablesTidy, inner.merged?_of_isTidy innerTidy]
    exact (enclose?_of_isLevel_eq_false isInner).trans
      (congrArg some (around_eq_level clause inner))

theorem mergedTables?_of_tidy : (tables : Option (List Nesting)) → tablesTidy tables = true →
    mergedTables? tables = some tables
  | none, _ => by
    rw [mergedTables?]
  | some tables, tidy => by
    rw [tablesTidy] at tidy
    rw [mergedTables?, mergedList?_of_tidy tables tidy]
    rfl

theorem mergedList?_of_tidy : (list : List Nesting) → listTidy list = true →
    mergedList? list = some list
  | [], _ => by
    rw [mergedList?]
  | first :: rest, tidy => by
    rw [listTidy, Bool.and_eq_true] at tidy
    rw [mergedList?, first.merged?_of_isTidy tidy.1, mergedList?_of_tidy rest tidy.2]
    rfl

end

end Nesting

/-! ### Reading queries and trees -/

namespace Sql

mutual

/-- The levels of a query. -/
def Query.nesting : Query → Nesting
  | ⟨withClause, body, order, limit, _, offset, _, _, _⟩ =>
    .around (tablesNesting withClause) (!order.isEmpty) (limit.isSome || offset.isSome) body.nesting

/-- The levels of named queries that may be absent. -/
def tablesNesting : Option With → Option (List Nesting)
  | none => none
  | some tables => some tables.nesting

/-- The levels of named queries in front of a query. -/
def With.nesting : With → List Nesting
  | ⟨_, tables⟩ => namedQueriesNesting tables

/-- The levels of named queries. -/
def namedQueriesNesting : List NamedQuery → List Nesting
  | [] => []
  | ⟨_, query, _⟩ :: rest => query.nesting :: namedQueriesNesting rest

/-- The levels of the body of a query. -/
def Body.nesting : Body → Nesting
  | .query query => query.nesting
  | .operation kind quantifier left right =>
    .operation kind (quantifier = .all) left.nesting right.nesting
  | _ => .select

end

end Sql

namespace Tree

mutual

/-- The levels of a select. The named queries stand in front of all its set operations. -/
def Select.nesting : Select → Nesting
  | ⟨_, _, _, _, _, _, setOperations, order, withDescriptions, limit⟩ =>
    optionNesting (tablesNesting withDescriptions) order.isSome limit.isSome .select setOperations

/-- The levels of named queries that may be absent. -/
def tablesNesting : Option (List With) → Option (List Nesting)
  | none => none
  | some tables => some (withsNesting tables)

/-- The levels of named queries. -/
def withsNesting : List With → List Nesting
  | [] => []
  | ⟨_, select⟩ :: rest => select.nesting :: withsNesting rest

/-- The levels of what was read before with set operations behind it that may be absent. -/
def optionNesting (tables : Option (List Nesting)) (isSorted isLimited : Bool) (inner : Nesting) :
    Option (List SetOperation) → Nesting
  | none => .around tables isSorted isLimited inner
  | some operations => listNesting tables isSorted isLimited inner operations

/-- The levels of what was read before with set operations behind it, each of which may have clauses
of its own. -/
def listNesting (tables : Option (List Nesting)) (isSorted isLimited : Bool) (inner : Nesting) :
    List SetOperation → Nesting
  | [] => .around tables isSorted isLimited inner
  | ⟨kind, isAll, nestedSelect, resultOrder, resultLimit⟩ :: rest =>
    listNesting tables resultOrder.isSome resultLimit.isSome
      (.operation kind isAll (.around none isSorted isLimited inner) nestedSelect.nesting) rest

end

theorem listNesting_cons (tables : Option (List Nesting)) (isSorted isLimited : Bool)
    (inner : Nesting) (operation : SetOperation) (rest : List SetOperation) :
    listNesting tables isSorted isLimited inner (operation :: rest) =
      listNesting tables operation.resultOrder.isSome operation.resultLimit.isSome
        (.operation operation.kind operation.isAll (.around none isSorted isLimited inner)
          operation.nestedSelect.nesting) rest := by
  cases operation
  rw [listNesting]

theorem Select.nesting_eq (select : Select) :
    select.nesting = listNesting (tablesNesting select.withDescriptions) select.order.isSome
      select.limit.isSome .select (select.setOperations.getD []) := by
  cases select with
  | mk _ _ _ _ _ _ setOperations =>
    cases setOperations with
    | none => rw [nesting, optionNesting, Option.getD_none, listNesting]
    | some operations => rw [nesting, optionNesting, Option.getD_some]

end Tree

/-! ### Clauses in their slots -/

namespace Lowering

open SqlImage.Tree

variable {tables : Option (List Nesting)} {isSorted isLimited : Bool} {inner : Nesting}

theorem listNesting_append (kind : SetKind) (isAll : Bool) (nestedSelect : Select)
    (operations : List SetOperation) (isInner : inner.isLevel = false) :
    listNesting tables isSorted isLimited inner
        (operations ++ [⟨kind, isAll, nestedSelect, none, none⟩]) =
      .combine kind isAll (listNesting tables isSorted isLimited inner operations)
        nestedSelect.nesting := by
  induction operations generalizing isSorted isLimited inner with
  | nil =>
    rw [List.nil_append, listNesting, listNesting, listNesting,
      Nesting.combine_around kind isAll _ isInner]
    rfl
  | cons operation rest inductionHypothesis =>
    rw [List.cons_append, listNesting_cons, inductionHypothesis rfl, ← listNesting_cons]

theorem nesting_addOperation (kind : SetKind) (isAll : Bool) (nestedSelect select : Select) :
    (addOperation ⟨kind, isAll, nestedSelect, none, none⟩ select).nesting =
      .combine kind isAll select.nesting nestedSelect.nesting := by
  rw [Select.nesting_eq, Select.nesting_eq select]
  exact listNesting_append kind isAll nestedSelect _ rfl

/-- Named queries join the clauses of the last set operation. -/
theorem enclose?_tables (operations : List SetOperation) (isInner : inner.isLevel = false) :
    (listNesting none isSorted isLimited inner operations).enclose? tables false false =
      some (listNesting tables isSorted isLimited inner operations) := by
  induction operations generalizing isSorted isLimited inner with
  | nil =>
    rw [listNesting, listNesting,
      Nesting.enclose?_around isInner (.inl rfl) (.inr rfl) (.inr rfl), Option.or_none,
      Bool.false_or, Bool.false_or]
  | cons operation rest inductionHypothesis =>
    rw [listNesting_cons, listNesting_cons, inductionHypothesis rfl]

theorem nesting_fillTables {withs : Option (List With)} {select filled : Select}
    (done : fillTables withs select = .ok filled) :
    select.nesting.enclose? (tablesNesting withs) false false = some filled.nesting := by
  obtain ⟨withDescriptions, slotIn, rfl⟩ := fillTables_eq_ok.mp done
  obtain ⟨fits, rfl⟩ := slotIn.eq_or
  rw [Select.nesting_eq select, Select.nesting_eq]
  obtain empty | rfl := fits
  · rw [empty, Option.or_none]
    exact enclose?_tables _ rfl
  · exact Nesting.enclose?_none _

theorem setOperations_fillTables {withs : Option (List With)} {select filled : Select}
    (done : fillTables withs select = .ok filled) :
    filled.setOperations = select.setOperations := by
  obtain ⟨withDescriptions, -, rfl⟩ := fillTables_eq_ok.mp done
  rfl

section Rows

variable {order : Option (List Order)} {limit : Option Limit}

/-- A sort and a limit join the clauses of the select or the set operation that has their slots. -/
theorem enclose?_rows {orderSlot filledOrder : Option (List Order)}
    {limitSlot filledLimit : Option Limit}
    (orderIn : Receives orderSlot order filledOrder)
    (limitIn : Receives limitSlot limit filledLimit)
    (isInner : inner.isLevel = false) :
    (Nesting.around tables orderSlot.isSome limitSlot.isSome inner).enclose? none order.isSome
        limit.isSome =
      some (.around tables filledOrder.isSome filledLimit.isSome inner) := by
  obtain ⟨orderFits, rfl⟩ := orderIn.eq_or
  obtain ⟨limitFits, rfl⟩ := limitIn.eq_or
  rw [Nesting.enclose?_around isInner (.inr rfl), Option.isSome_or, Option.isSome_or,
    Option.none_or]
  · exact orderFits.imp (congrArg Option.isSome) (congrArg Option.isSome)
  · exact limitFits.imp (congrArg Option.isSome) (congrArg Option.isSome)

/-- They join the clauses of the last set operation, whatever stands in front of it. -/
theorem enclose?_last (earlier : List SetOperation) {last : SetOperation}
    {resultOrder : Option (List Order)} {resultLimit : Option Limit}
    (orderIn : Receives last.resultOrder order resultOrder)
    (limitIn : Receives last.resultLimit limit resultLimit) :
    (listNesting tables isSorted isLimited inner (earlier ++ [last])).enclose? none order.isSome
      limit.isSome = some (listNesting tables isSorted isLimited inner
        (earlier ++ [{ last with resultOrder, resultLimit }])) := by
  induction earlier generalizing isSorted isLimited inner with
  | nil =>
    rw [List.nil_append, List.nil_append, listNesting_cons, listNesting_cons, listNesting,
      listNesting]
    exact enclose?_rows orderIn limitIn rfl
  | cons operation earlier inductionHypothesis =>
    rw [List.cons_append, listNesting_cons, inductionHypothesis, ← listNesting_cons,
      List.cons_append]

/-- A sort and a limit find their level: a select has none of its own if a set operation follows. -/
theorem nesting_fillRows {compound : Bool} {select filled : Select}
    (shape : compound = !(select.setOperations.getD []).isEmpty)
    (done : fillRows compound order limit select = .ok filled) :
    select.nesting.enclose? none order.isSome limit.isSome = some filled.nesting := by
  rw [Select.nesting_eq select, Select.nesting_eq]
  cases fillRows_eq_ok.mp done with
  | ofSelect isAlone orderIn limitIn =>
    have alone : select.setOperations.getD [] = [] := by
      cases compound with
      | false => exact List.isEmpty_iff.mp (Bool.not_eq_eq_eq_not.mp shape.symm)
      | true => exact isAlone rfl
    rw [alone, listNesting, listNesting]
    exact enclose?_rows orderIn limitIn rfl
  | ofLast isCompound parts orderIn limitIn =>
    rw [parts]
    exact enclose?_last _ orderIn limitIn

theorem isEmpty_fillRows {compound : Bool} {select filled : Select}
    (done : fillRows compound order limit select = .ok filled) :
    (filled.setOperations.getD []).isEmpty = (select.setOperations.getD []).isEmpty := by
  cases fillRows_eq_ok.mp done with
  | ofSelect => rfl
  | @ofLast earlier _ _ _ isCompound parts =>
    rw [parts]
    cases earlier <;> rfl

end Rows

end Lowering

namespace Sql

open Lowering

/-! ### The visit -/

/-- A sort has keys if some are written. -/
theorem makes_lowerOrder_isEmpty (order : List OrderItem) :
    Makes (lowerOrder order) fun keys => (sort keys).isSome = !order.isEmpty := by
  cases order with
  | nil =>
    rw [lowerOrder]
    exact makes_pure rfl
  | cons item rest =>
    cases item
    rw [lowerOrder]
    refine makes_of_objection ?_
    exact (makes_any _).bind fun _ _ => (makes_any _).bind fun _ _ => makes_pure rfl

theorem makes_lowerOption_isSome (expr : Option Expr) :
    Makes (lowerOption expr) fun made => made.isSome = expr.isSome := by
  cases expr with
  | none =>
    rw [lowerOption]
    exact makes_pure rfl
  | some expr =>
    rw [lowerOption]
    exact (makes_any _).bind fun _ _ => makes_pure rfl

theorem isSome_rows (limit offset : Option Tree.Expr) :
    (rows limit offset).isSome = (limit.isSome || offset.isSome) := by
  cases limit <;> cases offset <;> rfl

theorem merged?_around (tables : Option (List Nesting)) (isSorted isLimited : Bool)
    (inner : Nesting) : (Nesting.around tables isSorted isLimited inner).merged? = (do
      let tables ← Nesting.mergedTables? tables
      let inner ← inner.merged?
      inner.enclose? tables isSorted isLimited) := by
  unfold Nesting.around
  split
  · rw [Nesting.mergedTables?]
    cases inner.merged? with
    | none => rfl
    | some nesting => exact nesting.enclose?_none.symm
  · rw [Nesting.merged?]

/-- A tree shows all levels that were written, merged where it has one slot for two of them, and it
has set operations if some were written. -/
structure Shows (nesting : Nesting) (isCompound : Bool) (tree : Tree.Select) : Prop where
  levels : nesting.merged? = some tree.nesting
  operations : isCompound = !(tree.setOperations.getD []).isEmpty

mutual

theorem Query.makes_nesting : (query : Query) →
    Makes query.lower (Shows query.nesting query.isCompound)
  | ⟨withClause, body, order, limit, _, offset, _, fetch, _⟩ => by
    rw [Query.lower, Query.nesting, Query.isCompound]
    refine makes_of_check ?_
    refine (makes_tablesNesting withClause).bind fun tables tablesShown => ?_
    refine body.makes_nesting.bind fun select ⟨levels, operations⟩ => ?_
    refine (makes_lift fun _ => id).bind fun enclosed tablesDone => ?_
    refine (makes_lowerOrder_isEmpty order).bind fun keys keysShown => ?_
    refine (makes_lowerOption_isSome limit).bind fun limit limitShown => ?_
    refine (makes_lowerOption_isSome offset).bind fun offset offsetShown => ?_
    rw [← setOperations_fillTables tablesDone] at operations
    refine makes_lift fun filled rowsDone => ⟨?_, ?_⟩
    · have rowsShown := nesting_fillRows operations rowsDone
      rw [keysShown, isSome_rows, limitShown, offsetShown] at rowsShown
      rw [merged?_around, tablesShown, levels]
      exact Nesting.enclose?_tables_rows (nesting_fillTables tablesDone) rowsShown
    · rw [isEmpty_fillRows rowsDone]
      exact operations

theorem makes_tablesNesting : (withClause : Option With) →
    Makes (lowerWith withClause) fun made =>
      Nesting.mergedTables? (tablesNesting withClause) = some (Tree.tablesNesting made)
  | none => by
    rw [lowerWith, tablesNesting, Nesting.mergedTables?]
    exact makes_pure rfl
  | some tables => by
    rw [lowerWith, tablesNesting, Nesting.mergedTables?]
    refine tables.makes_nesting.bind fun made shown => ?_
    rw [shown]
    exact makes_pure rfl

theorem With.makes_nesting : (tables : With) →
    Makes tables.lower fun made =>
      Nesting.mergedList? tables.nesting = some (Tree.withsNesting made)
  | ⟨recursive, tables⟩ => by
    rw [With.lower, With.nesting]
    exact makes_of_objection (makes_namedQueriesNesting tables)

theorem makes_namedQueriesNesting : (tables : List NamedQuery) →
    Makes (lowerNamedQueries tables) fun made =>
      Nesting.mergedList? (namedQueriesNesting tables) = some (Tree.withsNesting made)
  | [] => by
    rw [lowerNamedQueries, namedQueriesNesting, Nesting.mergedList?]
    exact makes_pure rfl
  | ⟨label, query, _⟩ :: rest => by
    rw [lowerNamedQueries, namedQueriesNesting, Nesting.mergedList?]
    refine makes_of_check ?_
    refine query.makes_nesting.bind fun select ⟨levels, _⟩ => ?_
    refine (makes_namedQueriesNesting rest).bind fun others othersShown => ?_
    rw [levels, othersShown]
    exact makes_pure rfl

theorem Body.makes_nesting : (body : Body) →
    Makes body.lower (Shows body.nesting body.isCompound)
  | .select select => by
    simp only [Body.lower, Body.nesting, Body.isCompound]
    intro before tree after lowered
    obtain ⟨core, alone⟩ := select.makes_core before tree after lowered
    refine ⟨?_, by rw [alone]; rfl⟩
    rw [Nesting.merged?, ← core, Tree.Select.nesting_eq]
    rfl
  | .query query => by
    rw [Body.lower, Body.nesting, Body.isCompound]
    exact query.makes_nesting
  | .operation kind quantifier left right => by
    rw [Body.lower, Body.nesting, Body.isCompound]
    refine (steady_keepsAll quantifier).makes.bind fun isAll flag => ?_
    refine left.makes_nesting.bind fun select ⟨leftLevels, _⟩ => ?_
    refine right.makes_nesting.bind fun nestedSelect ⟨rightLevels, _⟩ => makes_pure ⟨?_, ?_⟩
    · rw [Nesting.merged?, leftLevels, rightLevels, nesting_addOperation, flag]
      rfl
    · simp [addOperation]
  | .values _ => by
    rw [Body.lower]
    exact makes_refuse _
  | .phrase _ => by
    rw [Body.lower]
    exact makes_refuse _

end

/-- The levels of a query merge into those of its tree, no two clauses in one slot. Two queries with
the same tree have the same levels if the tree can hold both as they are. -/
theorem Query.nesting_of_same_tree {first second : Query}
    {firstBefore firstAfter secondBefore secondAfter : Nat} {tree : Tree.Select}
    (firstLowered : first.lower firstBefore = .ok (tree, firstAfter))
    (secondLowered : second.lower secondBefore = .ok (tree, secondAfter)) :
    first.nesting.merged? = some tree.nesting ∧ second.nesting.merged? = some tree.nesting ∧
      (first.nesting.isTidy = true → second.nesting.isTidy = true →
        first.nesting = second.nesting) := by
  have firstShown := (first.makes_nesting firstBefore tree firstAfter firstLowered).levels
  have secondShown := (second.makes_nesting secondBefore tree secondAfter secondLowered).levels
  refine ⟨firstShown, secondShown, fun firstTidy secondTidy => Option.some.inj ?_⟩
  calc some first.nesting
    _ = first.nesting.merged? := (Nesting.merged?_of_isTidy _ firstTidy).symm
    _ = second.nesting.merged? := firstShown.trans secondShown.symm
    _ = some second.nesting := Nesting.merged?_of_isTidy _ secondTidy

/-- A body with a named query in front of it. -/
def Query.named (body : Body) : Query :=
  { ofBody body with
    withClause := some ⟨false, [⟨⟨⟨"w", none⟩, []⟩, ofBody (.ofValue .null), none⟩]⟩ }

/-- A body with its rows sorted. -/
def Query.sorted (body : Body) : Query :=
  { ofBody body with order := [⟨.literal .null, none, none⟩] }

/-- A body with its rows limited. -/
def Query.limited (body : Body) : Query := { ofBody body with limit := some (.literal .null) }

/-- More parentheses around a right side change neither the tree nor the levels. -/
theorem Query.nesting_of_same_tree_parentheses :
    let left : Body := .query (sorted (.ofValue .null))
    let right : Body := .query (limited (.ofValue .null))
    let plain : Query := ofBody (.operation .union .all left right)
    let wrapped : Query := ofBody (.operation .union .all left (.query (ofBody right)))
    ∃ tree, plain.lower 0 = .ok (tree, 0) ∧ wrapped.lower 0 = .ok (tree, 0) ∧
      tree.nesting = .operation .union true (.level none true false .select)
        (.level none false true .select) ∧
      plain.nesting = wrapped.nesting := by
  intro left right plain wrapped
  have same : wrapped.lower 0 = plain.lower 0 := by rfl
  have numbered : (plain.lower 0).map Prod.snd = .ok 0 := by rfl
  cases lowered : plain.lower 0 with
  | error cause =>
    rw [lowered] at numbered
    cases numbered
  | ok outcome =>
    obtain ⟨tree, after⟩ := outcome
    rw [lowered] at numbered
    cases numbered
    obtain ⟨shown, -, unique⟩ := nesting_of_same_tree lowered (same.trans lowered)
    exact ⟨tree, rfl, same.trans lowered, Option.some.inj (shown.symm.trans (by rfl)),
      unique (by rfl) (by rfl)⟩

/-- A sort outside parentheses becomes one before the limit inside, and the named queries of a left
side can be read by the right side too. -/
theorem Query.levels_merge :
    let value : Body := .ofValue .null
    let sortedAfter : Query := sorted (.query (limited value))
    let sortedBefore : Query := { sorted value with limit := some (.literal .null) }
    let namedLeft : Query := ofBody (.operation .union .all (.query (named value)) value)
    let namedWhole : Query := named (.operation .union .all value value)
    ((sortedAfter.lower 0).isOk = true ∧ sortedAfter.lower 0 = sortedBefore.lower 0 ∧
        sortedAfter.nesting ≠ sortedBefore.nesting) ∧
      (namedLeft.lower 0).isOk = true ∧ namedLeft.lower 0 = namedWhole.lower 0 ∧
        namedLeft.nesting ≠ namedWhole.nesting := by
  intro value sortedAfter sortedBefore namedLeft namedWhole
  exact ⟨⟨rfl, rfl, nofun⟩, rfl, rfl, nofun⟩

end Sql

end SqlImage
