/-
This file says what a table reference keeps of the joins that it was made of. Every
join has all before it on its left side, so a reference that is read from the right
end of its left sides down to the first table gives the tables back in their order,
and each with the way in which it was joined. Parentheses at the front leave no trace;
all others are tables of their own. Only one thing is lost: a natural join keeps that
it is natural, but no longer which rows without a partner it keeps.
-/

import Mathlib.Data.List.Forall2
import SqlImage.Parse
import SqlImage.Proofs.Outcome
import SqlImage.Tree.Same

namespace SqlImage

open SqlImage.Tree SqlImage.Lowering

/-! ### Reading joins back -/

namespace Tree.TableRef

/-- The first table of a reference and all that is joined to it, in order. What goes by a name of
its own is one table, whatever it is made of. -/
def spine : TableRef → TableRef × List Join
  | ⟨_, _, _, none, _, _, some ⟨left, right, condition, kind⟩⟩ =>
    (left.spine.1, left.spine.2 ++ [⟨left, right, condition, kind⟩])
  | table => (table, [])
termination_by structural table => table

theorem spine_ofJoin (join : Join) :
    (ofJoin join).spine = (join.left.spine.1, join.left.spine.2 ++ [join]) := by
  cases join
  rfl

theorem spine_of_join_none {table : TableRef} (none : table.join = none) :
    table.spine = (table, []) := by
  obtain ⟨kind, schema, name, label, select, list, join⟩ := table
  cases none
  cases label <;> rfl

theorem spine_of_label_some {table : TableRef} {label : Alias} (named : table.label = some label) :
    table.spine = (table, []) := by
  obtain ⟨kind, schema, name, label, select, list, join⟩ := table
  cases named
  rfl

/-- All joins of a reference, those inside of the joined tables too, each behind its tables. -/
def joins : TableRef → List Join
  | ⟨_, _, _, _, _, _, some ⟨left, right, condition, kind⟩⟩ =>
    left.joins ++ (right.joins ++ [⟨left, right, condition, kind⟩])
  | ⟨_, _, _, _, _, _, none⟩ => []
termination_by structural table => table

theorem joins_ofJoin (join : Join) :
    (ofJoin join).joins = join.left.joins ++ (join.right.joins ++ [join]) := by
  cases join
  rfl

theorem joins_of_join_none {table : TableRef} (none : table.join = none) : table.joins = [] := by
  obtain ⟨kind, schema, name, label, select, list, join⟩ := table
  cases none
  rfl

theorem joins_label (table : TableRef) (label : Option Alias) :
    ({ table with label } : TableRef).joins = table.joins := by
  obtain ⟨kind, schema, name, former, select, list, join⟩ := table
  cases join with
  | none => rfl
  | some join =>
    cases join
    rfl

end Tree.TableRef

namespace Sql

/-! ### Joins as they are written -/

/-- Whether a join is natural. -/
def JoinOperator.isNatural : JoinOperator → Bool
  | .constrained _ .natural => true
  | _ => false

/-- The kind of a join, as far as it says which rows without a partner are kept. -/
def JoinOperator.side? : JoinOperator → Option JoinKind
  | .constrained .inner _ => some .inner
  | .constrained .left _ => some .left
  | .constrained .right _ => some .right
  | .constrained .full _ => some .full
  | .cross => some .cross
  | _ => none

/-- The condition of a join, if it has one. -/
def JoinOperator.condition? : JoinOperator → Option Expr
  | .constrained _ (.on condition) => some condition
  | _ => none

/-- The first table of a FROM item and the joins behind it. Parentheses in front that give no name
are opened. -/
def FromItem.chain : FromItem → TableFactor × List Join
  | ⟨.nested inner none, joins⟩ => (inner.chain.1, inner.chain.2 ++ joins)
  | ⟨factor, joins⟩ => (factor, joins)
termination_by structural item => item

theorem FromItem.chain_of_ne {factor : TableFactor} {joins : List Join}
    (closed : ∀ inner, factor ≠ .nested inner none) :
    (FromItem.mk factor joins).chain = (factor, joins) := by
  cases factor with
  | nested inner label =>
    cases label with
    | none => exact absurd rfl (closed inner)
    | some label => rfl
  | _ => rfl

mutual

/-- How the tables of a FROM item are joined, those in parentheses too. -/
def FromItem.operators : FromItem → List JoinOperator
  | ⟨factor, joins⟩ => factor.operators ++ joinsOperators joins

/-- How tables are joined to a table before them. -/
def joinsOperators : List Join → List JoinOperator
  | [] => []
  | ⟨operator, factor⟩ :: rest => factor.operators ++ operator :: joinsOperators rest

/-- How tables are joined in parentheses. -/
def TableFactor.operators : TableFactor → List JoinOperator
  | .nested inner _ => inner.operators
  | _ => []

end

/-! ### What is kept -/

/-- What a join keeps of the operator by which it was written. -/
structure JoinOperator.KeptBy (operator : JoinOperator) (join : Tree.Join) : Prop where
  natural : operator.isNatural = decide (join.kind = .natural)
  side : operator.isNatural = false → operator.side? = some join.kind
  condition : Option.Rel
    (fun written made => ∃ before after, Expr.lower written before = .ok (made, after))
    operator.condition? join.condition

/-- What a join keeps of the way in which it was written: what is joined, and how. -/
structure Join.KeptBy (written : Join) (join : Tree.Join) : Prop where
  factor : ∃ before after, written.factor.lower before = .ok (join.right, after)
  operator : written.operator.KeptBy join

/-- A table reference is read back as a FROM item: the first table and those behind it in order,
each of them joined in the same way, and so are all tables in parentheses. -/
structure FromItem.ReadBack (item : FromItem) (table : TableRef) : Prop where
  first : ∃ before after, item.chain.1.lower before = .ok (table.spine.1, after)
  joins : List.Forall₂ Join.KeptBy item.chain.2 table.spine.2
  everywhere : List.Forall₂ JoinOperator.KeptBy item.operators table.joins

/-- Two operators by which tables are joined in the same way, if they are no natural joins: both
keep the same rows, and their conditions have the same tree. -/
structure JoinOperator.Alike (operator other : JoinOperator) : Prop where
  natural : operator.isNatural = other.isNatural
  side : operator.isNatural = false → operator.side? = other.side?
  condition : Option.Rel
    (fun written otherWritten => ∃ made before after otherBefore otherAfter,
      Expr.lower written before = .ok (made, after) ∧
      Expr.lower otherWritten otherBefore = .ok (made, otherAfter))
    operator.condition? other.condition?

theorem JoinOperator.KeptBy.alike {operator other : JoinOperator} {join : Tree.Join}
    (kept : operator.KeptBy join) (otherKept : other.KeptBy join) : operator.Alike other := by
  have natural := kept.natural.trans otherKept.natural.symm
  refine ⟨natural, fun sided => ?_, ?_⟩
  · rw [kept.side sided, otherKept.side (natural ▸ sided)]
  · have condition := kept.condition
    have otherCondition := otherKept.condition
    revert condition otherCondition
    generalize operator.condition? = written
    generalize other.condition? = otherWritten
    generalize join.condition = made
    rintro (⟨before, after, lowered⟩ | _) (⟨otherBefore, otherAfter, otherLowered⟩ | _)
    · exact .some ⟨_, before, after, otherBefore, otherAfter, lowered, otherLowered⟩
    · exact .none

theorem forall₂_alike {operators others : List JoinOperator} {joins : List Tree.Join}
    (kept : List.Forall₂ JoinOperator.KeptBy operators joins)
    (otherKept : List.Forall₂ JoinOperator.KeptBy others joins) :
    List.Forall₂ JoinOperator.Alike operators others := by
  induction kept generalizing others with
  | nil =>
    cases otherKept
    exact .nil
  | cons here _ inductionHypothesis =>
    cases otherKept with
    | cons otherHere otherBehind =>
      exact .cons (here.alike otherHere) (inductionHypothesis otherBehind)

/-! ### Leaves -/

theorem makes_joinKind_side (operator : JoinOperator) :
    Makes (joinKind operator) fun kind => operator.side? = some kind ∧ kind ≠ .natural := by
  unfold joinKind
  split <;> first | exact makes_refuse _ | exact makes_pure ⟨rfl, by decide⟩

theorem makes_tableName_alone (name : List Ident) :
    Makes (tableName name) fun table => table.join = none := by
  unfold tableName
  split <;> first | exact makes_refuse _ | exact makes_pure rfl

/-- A join operator is kept, save for the side of a natural join. -/
theorem JoinOperator.makes_keptBy {kind : JoinKind} (sided : kind ≠ .natural)
    (left right : TableRef) : (operator : JoinOperator) → operator.side? = some kind →
    Makes (operator.lower kind) fun made => operator.KeptBy ⟨left, right, made.2, made.1⟩
  | .constrained _ (.on condition), side => by
    rw [JoinOperator.lower]
    refine (makes_itself condition.lower).bind fun tree written => makes_pure ?_
    exact ⟨(decide_eq_false sided).symm, fun _ => side, .some written⟩
  | .constrained _ (.using _), _ => by
    rw [JoinOperator.lower]
    exact makes_refuse _
  | .constrained _ .natural, _ => by
    rw [JoinOperator.lower]
    refine makes_pure ⟨rfl, fun plain => ?_, .none⟩
    cases plain
  | .constrained _ .unmarked, side | .cross, side => by
    simp only [JoinOperator.lower]
    exact makes_pure ⟨(decide_eq_false sided).symm, fun _ => side, .none⟩

/-- Nothing but joins in parentheses without a name is read back as joins. -/
theorem TableFactor.makes_alone (factor : TableFactor)
    (closed : ∀ inner, factor ≠ .nested inner none) :
    Makes factor.lower fun table => table.spine = (table, []) := by
  cases factor with
  | table name partitions arguments named hints =>
    rw [TableFactor.lower]
    exact (makes_tableName_alone name).bind fun _ none =>
      makes_pure (TableRef.spine_of_join_none none)
  | derived lateral query named =>
    cases lateral with
    | true =>
      rw [TableFactor.lower]
      exact makes_refuse _
    | false =>
      rw [TableFactor.lower]
      exact (makes_any query.lower).bind fun _ _ => makes_pure (TableRef.spine_of_join_none rfl)
  | nested inner named =>
    cases named with
    | none => exact absurd rfl (closed inner)
    | some name =>
      rw [TableFactor.lower]
      exact (makes_any inner.lower).bind fun _ _ => makes_pure (TableRef.spine_of_label_some rfl)
  | phrase before named after =>
    rw [TableFactor.lower]
    exact makes_refuse _

/-! ### The spine -/

/-- What is joined to a table goes behind what is joined to it already. -/
def Continues (left : TableRef) (joins : List Join) (table : TableRef) : Prop :=
  table.spine.1 = left.spine.1 ∧
    ∃ added, table.spine.2 = left.spine.2 ++ added ∧ List.Forall₂ Join.KeptBy joins added

theorem makes_continues (joins : List Join) (left : TableRef) :
    Makes (lowerJoins left joins) (Continues left joins) := by
  induction joins generalizing left with
  | nil =>
    rw [lowerJoins]
    exact makes_pure ⟨rfl, [], (List.append_nil _).symm, .nil⟩
  | cons written rest inductionHypothesis =>
    obtain ⟨operator, factor⟩ := written
    rw [lowerJoins]
    refine (makes_joinKind_side operator).bind fun kind found => ?_
    obtain ⟨side, sided⟩ := found
    refine (makes_itself factor.lower).bind fun right lowered => ?_
    refine (operator.makes_keptBy sided left right side).bind fun made kept => ?_
    refine (inductionHypothesis _).mono fun table continues => ?_
    obtain ⟨first, added, behind, keptBehind⟩ := continues
    rw [TableRef.spine_ofJoin] at first behind
    refine ⟨first, _ :: added, ?_, .cons ⟨lowered, kept⟩ keptBehind⟩
    rw [behind, List.append_assoc, List.singleton_append]

/-- The first table of a FROM item and the joins behind it are on the spine. -/
def FromItem.OnSpine (item : FromItem) (table : TableRef) : Prop :=
  (∃ before after, item.chain.1.lower before = .ok (table.spine.1, after)) ∧
    List.Forall₂ Join.KeptBy item.chain.2 table.spine.2

theorem FromItem.makes_onSpine_of_ne {factor : TableFactor} {joins : List Join}
    (closed : ∀ inner, factor ≠ .nested inner none) :
    Makes (FromItem.mk factor joins).lower (FromItem.mk factor joins).OnSpine := by
  rw [FromItem.lower]
  refine ((makes_itself factor.lower).and (factor.makes_alone closed)).bind fun left made => ?_
  obtain ⟨lowered, alone⟩ := made
  refine (makes_continues joins left).mono fun table continues => ?_
  obtain ⟨same, added, behind, keptBehind⟩ := continues
  rw [alone] at same behind
  rw [OnSpine, chain_of_ne closed, same, behind, List.nil_append]
  exact ⟨lowered, keptBehind⟩

theorem FromItem.makes_onSpine : (item : FromItem) → Makes item.lower item.OnSpine
  | ⟨.nested inner none, joins⟩ => by
    rw [FromItem.lower, TableFactor.lower]
    refine (inner.makes_onSpine.bind fun _ => makes_pure).bind fun left onSpine => ?_
    obtain ⟨first, kept⟩ := onSpine
    refine (makes_continues joins left).mono fun table continues => ?_
    obtain ⟨same, added, behind, keptBehind⟩ := continues
    rw [OnSpine, chain, same, behind]
    exact ⟨first, List.rel_append kept keptBehind⟩
  | ⟨.nested _ (some _), _⟩ | ⟨.table _ _ _ _ _, _⟩ | ⟨.derived _ _ _, _⟩ | ⟨.phrase _ _ _, _⟩ =>
    makes_onSpine_of_ne nofun

/-! ### Joins in parentheses -/

mutual

theorem FromItem.makes_everywhere : (item : FromItem) →
    Makes item.lower fun table => List.Forall₂ JoinOperator.KeptBy item.operators table.joins
  | ⟨factor, joins⟩ => by
    rw [FromItem.lower, FromItem.operators]
    exact factor.makes_everywhere.bind fun left kept => makes_everywhereBehind joins left _ kept

theorem makes_everywhereBehind : (joins : List Join) → (left : TableRef) →
    (operators : List JoinOperator) → List.Forall₂ JoinOperator.KeptBy operators left.joins →
    Makes (lowerJoins left joins) fun table =>
      List.Forall₂ JoinOperator.KeptBy (operators ++ joinsOperators joins) table.joins
  | [], left, operators, kept => by
    rw [lowerJoins, joinsOperators, List.append_nil]
    exact makes_pure kept
  | ⟨operator, factor⟩ :: rest, left, operators, kept => by
    rw [lowerJoins, joinsOperators]
    refine (makes_joinKind_side operator).bind fun kind found => ?_
    obtain ⟨side, sided⟩ := found
    refine factor.makes_everywhere.bind fun right keptRight => ?_
    refine (operator.makes_keptBy sided left right side).bind fun made keptOperator => ?_
    have keptJoin : List.Forall₂ JoinOperator.KeptBy (operators ++ (factor.operators ++ [operator]))
        (TableRef.ofJoin ⟨left, right, made.2, made.1⟩).joins := by
      rw [TableRef.joins_ofJoin]
      exact List.rel_append kept (List.rel_append keptRight (.cons keptOperator .nil))
    simpa using makes_everywhereBehind rest _ _ keptJoin

theorem TableFactor.makes_everywhere : (factor : TableFactor) →
    Makes factor.lower fun table => List.Forall₂ JoinOperator.KeptBy factor.operators table.joins
  | .table name _ _ _ _ => by
    rw [TableFactor.lower, TableFactor.operators]
    · refine (makes_tableName_alone name).bind fun table none => makes_pure ?_
      rw [TableRef.joins_label, TableRef.joins_of_join_none none]
      exact .nil
    · nofun
  | .derived true _ _ => by
    rw [TableFactor.lower]
    exact makes_refuse _
  | .derived false query _ => by
    rw [TableFactor.lower, TableFactor.operators]
    · exact (makes_any query.lower).bind fun _ _ => makes_pure .nil
    · nofun
  | .nested inner none => by
    rw [TableFactor.lower, TableFactor.operators]
    exact inner.makes_everywhere.bind fun _ kept => makes_pure kept
  | .nested inner (some name) => by
    rw [TableFactor.lower, TableFactor.operators]
    refine inner.makes_everywhere.bind fun table kept => makes_pure ?_
    rwa [TableRef.joins_label]
  | .phrase _ _ _ => by
    rw [TableFactor.lower]
    exact makes_refuse _

end

/-- A FROM item is read back from the table reference that it is made of: the same tables in the
same order, each of them joined in the same way, in parentheses too. Only natural joins are the same
whichever rows without a partner they keep. Other items with the same table reference join their
tables in the same way. -/
theorem FromItem.lower_readBack {item : FromItem} {before after : Nat} {table : TableRef}
    (lowered : item.lower before = .ok (table, after)) :
    item.ReadBack table ∧
      ∀ (other : FromItem) (otherBefore otherAfter : Nat),
        other.lower otherBefore = .ok (table, otherAfter) →
        List.Forall₂ JoinOperator.Alike item.operators other.operators := by
  have kept := item.makes_everywhere before table after lowered
  obtain ⟨first, joins⟩ := item.makes_onSpine before table after lowered
  refine ⟨⟨first, joins, kept⟩, fun other otherBefore otherAfter otherLowered => ?_⟩
  have otherKept := other.makes_everywhere otherBefore table otherAfter otherLowered
  exact forall₂_alike kept otherKept

/-- A table by its name. -/
def TableFactor.ofName (name : String) : TableFactor := .table [⟨name, none⟩] [] none none []

/-- Joins in parentheses in front and behind, the latter under a name. -/
def FromItem.someJoins : FromItem :=
  let condition : Expr := .literal (.placeholder "?")
  let front : FromItem := ⟨.ofName "a", [⟨.constrained .left (.on condition), .ofName "b"⟩]⟩
  let behind : FromItem := ⟨.ofName "c", [⟨.constrained .full .natural, .ofName "d"⟩]⟩
  ⟨.nested front none, [⟨.cross, .nested behind (some ⟨⟨"x", none⟩, []⟩)⟩]⟩

theorem FromItem.lower_readBack_someJoins :
    ∃ table, someJoins.lower 0 = .ok (table, 1) ∧
      table.joins.map Tree.Join.kind = [.left, .natural, .cross] ∧
      table.spine.2.map Tree.Join.kind = [.left, .cross] ∧ someJoins.ReadBack table := by
  have kinds : (someJoins.lower 0).map (fun made => (made.1.joins.map Tree.Join.kind,
      made.1.spine.2.map Tree.Join.kind, made.2)) =
        .ok ([.left, .natural, .cross], [.left, .cross], 1) := by rfl
  cases lowered : someJoins.lower 0 with
  | error cause =>
    rw [lowered] at kinds
    cases kinds
  | ok outcome =>
    obtain ⟨table, after⟩ := outcome
    rw [lowered] at kinds
    obtain ⟨everywhere, onSpine, rfl⟩ : _ ∧ _ ∧ after = 1 := by
      simpa only [Except.map, Except.ok.injEq, Prod.mk.injEq] using kinds
    exact ⟨table, rfl, everywhere, onSpine, (lower_readBack lowered).1⟩

/-- The sides of the joins of the first table that a statement reads. -/
def Statement.sides? : Statement → Option (List (Option JoinKind))
  | .query ⟨_, .select ⟨_, _, _, _, [item], _, _, _, _, _, _, _⟩, _, _, _, _, _, _, _⟩ =>
    some (item.operators.map JoinOperator.side?)
  | _ => none

end Sql

/-- Two natural joins that keep different rows without a partner have the same tree. -/
theorem parse_natural_joins :
    let left := "SELECT * FROM a NATURAL LEFT JOIN b".toList
    let full := "SELECT * FROM a NATURAL FULL JOIN b".toList
    let room := Options.default.recursionLimit.toNat
    (Sql.parseText room left).toOption.map (·.map Sql.Statement.sides?) =
        some [some [some .left]] ∧
      (Sql.parseText room full).toOption.map (·.map Sql.Statement.sides?) =
        some [some [some .full]] ∧
      (parse .default left).isValid = true ∧
      (parse .default left).same (parse .default full) = true := by
  decide +kernel

end SqlImage
