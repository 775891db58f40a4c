/-
This file says what the JSON text of a tree keeps: everything but the floating-point
numbers that are not finite. All other numbers in the text are integers of 64 bits,
which are read back always, and finite floating-point numbers, of which it is assumed
that each is read back from its own text. Where that is so, the text is read as the
form that was printed, and the form gives the tree back.
-/

import SqlImage.Proofs.Printed
import SqlImage.Proofs.Recorded

namespace SqlImage

open SqlImage.Json (Value ElementsLegible MembersLegible)

/-- The text of a floating-point number is read as the number. -/
def Double.ReadsBack (number : Double) : Prop :=
  Value.ofText number.toText = .ok (.number (.real number))

instance (number : Double) : Decidable number.ReadsBack :=
  inferInstanceAs (Decidable (Value.ofText number.toText = .ok (.number (.real number))))

namespace Tree

/-- Those of some floating-point numbers that are finite are read back. -/
def Readable (doubles : List Double) : Prop :=
  ∀ number ∈ doubles, number.isFinite = true → number.ReadsBack

theorem readable_append {doubles others : List Double} :
    Readable (doubles ++ others) ↔ Readable doubles ∧ Readable others :=
  List.forall_mem_append

/-! ### Legible values -/

theorem legible_ofDouble {number : Double} (readable : Readable [number]) :
    (Value.ofDouble number).Legible := by
  unfold Json.Value.ofDouble
  split
  · rename_i finite
    have written : (Json.Number.real number).toText = number.toText := if_pos finite
    have readsBack := readable number (List.mem_singleton_self number) finite
    rw [Double.ReadsBack, ← written] at readsBack
    exact readsBack
  · exact trivial

theorem legible_int64 (value : Int64) : (Value.ofInt value.toInt).Legible :=
  Json.Number.readsBack_integer value.minValue_le_toInt
    (Int.lt_of_le_of_lt value.toInt_le (by decide))

theorem legible_int32 (value : Int32) : (Value.ofInt value.toInt).Legible :=
  Json.Number.readsBack_integer (Int.le_trans (by decide) value.minValue_le_toInt)
    (Int.lt_of_le_of_lt value.toInt_le (by decide))

theorem legible_uint64 (value : UInt64) : (Value.ofInt value.toNat).Legible :=
  Json.Number.readsBack_integer (Int.le_trans (by decide) (Int.natCast_nonneg _))
    (Int.ofNat_lt.mpr value.toNat_lt_size)

theorem elementsLegible_texts (texts : List String) : ElementsLegible (texts.map .text) := by
  induction texts with
  | nil => exact trivial
  | cons head tail inductionHypothesis => exact ⟨trivial, inductionHypothesis⟩

theorem legible_optionalText (text : Option String) : (text.elim .null Value.text).Legible := by
  cases text <;> exact trivial

theorem Alias.legible_toJson (label : Alias) : label.toJson.Legible := by
  obtain ⟨name, columns⟩ := label
  cases columns with
  | none => exact ⟨trivial, trivial, trivial⟩
  | some columns => exact ⟨trivial, elementsLegible_texts columns, trivial⟩

theorem legible_optionalAlias (label : Option Alias) :
    (label.elim .null Alias.toJson).Legible := by
  cases label with
  | none => exact trivial
  | some label => exact label.legible_toJson

mutual

theorem Base.legible_toJson : (base : Base) → Readable base.doubles → base.toJson.Legible
  | ⟨kind, stringLength, hints⟩, readable => by
    rw [Base.toJson_eq]
    exact ⟨trivial, legible_uint64 stringLength, legible_optionalExprs hints readable, trivial⟩

theorem Select.legible_toJson :
    (select : Select) → Readable select.doubles → select.toJson.Legible
  | ⟨base, fromTable, selectDistinct, selectList, whereClause, groupBy, setOperations, order,
      withDescriptions, limit⟩, readable => by
    simp only [Select.doubles, readable_append] at readable
    obtain ⟨inBase, inTable, inList, inWhere, inGroupBy, inOperations, inOrder, inWiths,
      inLimit⟩ := readable
    rw [Select.toJson_eq]
    exact ⟨base.legible_toJson inBase, legible_optionalTableRef fromTable inTable, trivial,
      legible_optionalExprs selectList inList, legible_optionalExpr whereClause inWhere,
      legible_optionalGroupBy groupBy inGroupBy,
      legible_optionalSetOperations setOperations inOperations,
      legible_optionalOrders order inOrder, legible_optionalWiths withDescriptions inWiths,
      legible_optionalLimit limit inLimit, trivial⟩

theorem legible_optionalSelect : (select : Option Select) →
    Readable (optionalSelectDoubles select) → (select.elim .null Select.toJson).Legible
  | none, _ => trivial
  | some select, readable => select.legible_toJson readable

theorem Expr.legible_toJson : (expr : Expr) → Readable expr.doubles → expr.toJson.Legible
  | ⟨kind, expr, expr2, exprList, select, name, table, label, fval, ival, ival2, datetimeField,
      isBoolLiteral, opType, distinct⟩, readable => by
    simp only [Expr.doubles, readable_append] at readable
    obtain ⟨inExpr, inExpr2, inList, inSelect, inFval⟩ := readable
    rw [Expr.toJson_eq]
    exact ⟨trivial, legible_optionalExpr expr inExpr, legible_optionalExpr expr2 inExpr2,
      legible_optionalExprs exprList inList, legible_optionalSelect select inSelect,
      legible_optionalText name, legible_optionalText table, legible_optionalText label,
      legible_ofDouble inFval, legible_int64 ival, legible_int64 ival2, trivial, trivial, trivial,
      trivial, trivial⟩

theorem legible_optionalExpr : (expr : Option Expr) →
    Readable (optionalExprDoubles expr) → (expr.elim .null Expr.toJson).Legible
  | none, _ => trivial
  | some expr, readable => expr.legible_toJson readable

theorem elementsLegible_exprs :
    (exprs : List Expr) → Readable (exprsDoubles exprs) → ElementsLegible (exprsJson exprs)
  | [], _ => trivial
  | head :: tail, readable =>
    ⟨head.legible_toJson (readable_append.mp readable).1,
      elementsLegible_exprs tail (readable_append.mp readable).2⟩

theorem legible_optionalExprs : (exprs : Option (List Expr)) →
    Readable (optionalExprsDoubles exprs) →
      (exprs.elim .null fun exprs => Value.list (exprsJson exprs)).Legible
  | none, _ => trivial
  | some exprs, readable => elementsLegible_exprs exprs readable

theorem TableRef.legible_toJson :
    (table : TableRef) → Readable table.doubles → table.toJson.Legible
  | ⟨kind, schema, name, label, select, list, join⟩, readable => by
    simp only [TableRef.doubles, readable_append] at readable
    obtain ⟨inSelect, inList, inJoin⟩ := readable
    rw [TableRef.toJson_eq]
    exact ⟨trivial, legible_optionalText schema, legible_optionalText name,
      legible_optionalAlias label, legible_optionalSelect select inSelect,
      legible_optionalTableRefs list inList, legible_optionalJoin join inJoin, trivial⟩

theorem legible_optionalTableRef : (table : Option TableRef) →
    Readable (optionalTableRefDoubles table) → (table.elim .null TableRef.toJson).Legible
  | none, _ => trivial
  | some table, readable => table.legible_toJson readable

theorem elementsLegible_tableRefs : (tables : List TableRef) →
    Readable (tableRefsDoubles tables) → ElementsLegible (tableRefsJson tables)
  | [], _ => trivial
  | head :: tail, readable =>
    ⟨head.legible_toJson (readable_append.mp readable).1,
      elementsLegible_tableRefs tail (readable_append.mp readable).2⟩

theorem legible_optionalTableRefs : (tables : Option (List TableRef)) →
    Readable (optionalTableRefsDoubles tables) →
      (tables.elim .null fun tables => Value.list (tableRefsJson tables)).Legible
  | none, _ => trivial
  | some tables, readable => elementsLegible_tableRefs tables readable

theorem Join.legible_toJson : (join : Join) → Readable join.doubles → join.toJson.Legible
  | ⟨left, right, condition, kind⟩, readable => by
    simp only [Join.doubles, readable_append] at readable
    obtain ⟨inLeft, inRight, inCondition⟩ := readable
    rw [Join.toJson_eq]
    exact ⟨left.legible_toJson inLeft, right.legible_toJson inRight,
      legible_optionalExpr condition inCondition, trivial, trivial⟩

theorem legible_optionalJoin : (join : Option Join) →
    Readable (optionalJoinDoubles join) → (join.elim .null Join.toJson).Legible
  | none, _ => trivial
  | some join, readable => join.legible_toJson readable

theorem GroupBy.legible_toJson :
    (groupBy : GroupBy) → Readable groupBy.doubles → groupBy.toJson.Legible
  | ⟨columns, having⟩, readable => by
    simp only [GroupBy.doubles, readable_append] at readable
    rw [GroupBy.toJson_eq]
    exact ⟨legible_optionalExprs columns readable.1, legible_optionalExpr having readable.2,
      trivial⟩

theorem legible_optionalGroupBy : (groupBy : Option GroupBy) →
    Readable (optionalGroupByDoubles groupBy) → (groupBy.elim .null GroupBy.toJson).Legible
  | none, _ => trivial
  | some groupBy, readable => groupBy.legible_toJson readable

theorem Order.legible_toJson : (order : Order) → Readable order.doubles → order.toJson.Legible
  | ⟨kind, expr⟩, readable => by
    rw [Order.toJson_eq]
    exact ⟨trivial, expr.legible_toJson readable, trivial⟩

theorem elementsLegible_orders : (orders : List Order) →
    Readable (ordersDoubles orders) → ElementsLegible (ordersJson orders)
  | [], _ => trivial
  | head :: tail, readable =>
    ⟨head.legible_toJson (readable_append.mp readable).1,
      elementsLegible_orders tail (readable_append.mp readable).2⟩

theorem legible_optionalOrders : (orders : Option (List Order)) →
    Readable (optionalOrdersDoubles orders) →
      (orders.elim .null fun orders => Value.list (ordersJson orders)).Legible
  | none, _ => trivial
  | some orders, readable => elementsLegible_orders orders readable

theorem With.legible_toJson :
    (withQuery : With) → Readable withQuery.doubles → withQuery.toJson.Legible
  | ⟨label, select⟩, readable => by
    rw [With.toJson_eq]
    exact ⟨trivial, select.legible_toJson readable, trivial⟩

theorem elementsLegible_withs : (withs : List With) →
    Readable (withsDoubles withs) → ElementsLegible (withsJson withs)
  | [], _ => trivial
  | head :: tail, readable =>
    ⟨head.legible_toJson (readable_append.mp readable).1,
      elementsLegible_withs tail (readable_append.mp readable).2⟩

theorem legible_optionalWiths : (withs : Option (List With)) →
    Readable (optionalWithsDoubles withs) →
      (withs.elim .null fun withs => Value.list (withsJson withs)).Legible
  | none, _ => trivial
  | some withs, readable => elementsLegible_withs withs readable

theorem Limit.legible_toJson : (limit : Limit) → Readable limit.doubles → limit.toJson.Legible
  | ⟨limit, offset⟩, readable => by
    simp only [Limit.doubles, readable_append] at readable
    rw [Limit.toJson_eq]
    exact ⟨legible_optionalExpr limit readable.1, legible_optionalExpr offset readable.2, trivial⟩

theorem legible_optionalLimit : (limit : Option Limit) →
    Readable (optionalLimitDoubles limit) → (limit.elim .null Limit.toJson).Legible
  | none, _ => trivial
  | some limit, readable => limit.legible_toJson readable

theorem SetOperation.legible_toJson : (operation : SetOperation) →
    Readable operation.doubles → operation.toJson.Legible
  | ⟨kind, isAll, nestedSelect, resultOrder, resultLimit⟩, readable => by
    simp only [SetOperation.doubles, readable_append] at readable
    obtain ⟨inNested, inOrder, inLimit⟩ := readable
    rw [SetOperation.toJson_eq]
    exact ⟨trivial, trivial, nestedSelect.legible_toJson inNested,
      legible_optionalOrders resultOrder inOrder, legible_optionalLimit resultLimit inLimit,
      trivial⟩

theorem elementsLegible_setOperations : (operations : List SetOperation) →
    Readable (setOperationsDoubles operations) → ElementsLegible (setOperationsJson operations)
  | [], _ => trivial
  | head :: tail, readable =>
    ⟨head.legible_toJson (readable_append.mp readable).1,
      elementsLegible_setOperations tail (readable_append.mp readable).2⟩

theorem legible_optionalSetOperations : (operations : Option (List SetOperation)) →
    Readable (optionalSetOperationsDoubles operations) →
      (operations.elim .null fun operations =>
        Value.list (setOperationsJson operations)).Legible
  | none, _ => trivial
  | some operations, readable => elementsLegible_setOperations operations readable

end

theorem Statement.legible_toJson (statement : Statement) (readable : Readable statement.doubles) :
    statement.toJson.Legible := by
  cases statement with
  | select body => exact ⟨body.legible_toJson readable, trivial⟩
  | insert base => exact ⟨⟨base.legible_toJson readable, trivial⟩, trivial⟩
  | update base => exact ⟨⟨base.legible_toJson readable, trivial⟩, trivial⟩
  | delete base => exact ⟨⟨base.legible_toJson readable, trivial⟩, trivial⟩
  | other base => exact ⟨base.legible_toJson readable, trivial⟩

theorem elementsLegible_statements {statements : List Statement}
    (readable : Readable (statements.flatMap Statement.doubles)) :
    ElementsLegible (statements.map Statement.toJson) := by
  induction statements with
  | nil => exact trivial
  | cons head tail inductionHypothesis =>
    rw [List.flatMap_cons, readable_append] at readable
    exact ⟨head.legible_toJson readable.1, inductionHypothesis readable.2⟩

namespace ParseResult

theorem legible_toJson (result : ParseResult) (readable : Readable result.doubles) :
    result.toJson.Legible := by
  cases result with
  | valid statements => exact ⟨elementsLegible_statements readable, trivial⟩
  | invalid error =>
    exact ⟨⟨trivial, legible_int32 error.line, legible_int32 error.column, trivial⟩, trivial⟩

/-- The result that a JSON text holds, if it holds one. -/
def ofJsonText? (text : String) : Option ParseResult :=
  (Value.ofText text).toOption.bind ofJson?

/-- A result is read back from its JSON text, unless a floating-point number in it is not finite:
then nothing is read from the text. The finite ones are taken to be read back from their own
texts, each for itself. -/
theorem recovers_toJsonText (result : ParseResult)
    (readable : ∀ number ∈ result.doubles, number.isFinite = true → number.ReadsBack) :
    ((∀ number ∈ result.doubles, number.isFinite = true) →
      ofJsonText? result.toJsonText = some result) ∧
    ((∃ number ∈ result.doubles, number.isFinite = false) →
      ofJsonText? result.toJsonText = none) := by
  have read : Value.ofText result.toJsonText = .ok result.toJson :=
    Json.Value.ofText_toPretty (result.legible_toJson readable)
  have recovered : ofJsonText? result.toJsonText =
      if result.doubles.all Double.isFinite then some result else none := by
    rw [ofJsonText?, read]
    exact result.recovers_toJson
  rw [recovered]
  refine ⟨fun finite => if_pos (List.all_eq_true.mpr finite), ?_⟩
  rintro ⟨number, inside, infinite⟩
  refine if_neg fun finite => ?_
  rw [List.all_eq_true.mp finite number inside] at infinite
  cases infinite

/-- A select with a text of escapes, the least integer, a floating-point number, and a grouping by
an empty list without a condition. -/
def extremes (number : Double) : ParseResult :=
  .valid [.select { Select.ofBase ⟨.select, UInt64.ofNat (UInt64.size - 1), none⟩ with
    selectList := some [.literalString "\"\\\n\x01\x7f", .literalInt Int64.minValue,
      .literalFloat number]
    groupBy := some ⟨some [], none⟩ }]

/-- The smallest number above zero is kept, and with an infinite one nothing is read. -/
theorem recovers_toJsonText_extremes :
    ((∀ number ∈ (extremes ⟨1⟩).doubles, number.isFinite = true → number.ReadsBack) ∧
      (∀ number ∈ (extremes ⟨1⟩).doubles, number.isFinite = true) ∧
      ofJsonText? (extremes ⟨1⟩).toJsonText = some (extremes ⟨1⟩)) ∧
    ((∀ number ∈ (extremes ⟨0x7FF0000000000000⟩).doubles,
        number.isFinite = true → number.ReadsBack) ∧
      (∃ number ∈ (extremes ⟨0x7FF0000000000000⟩).doubles, number.isFinite = false) ∧
      ofJsonText? (extremes ⟨0x7FF0000000000000⟩).toJsonText = none) := by
  have readable : ∀ number ∈ (extremes ⟨1⟩).doubles,
      number.isFinite = true → number.ReadsBack := by decide +kernel
  have finite : ∀ number ∈ (extremes ⟨1⟩).doubles, number.isFinite = true := by decide +kernel
  have others : ∀ number ∈ (extremes ⟨0x7FF0000000000000⟩).doubles,
      number.isFinite = true → number.ReadsBack := by decide +kernel
  have infinite : ∃ number ∈ (extremes ⟨0x7FF0000000000000⟩).doubles,
      number.isFinite = false := by decide +kernel
  exact ⟨⟨readable, finite, (recovers_toJsonText (extremes ⟨1⟩) readable).1 finite⟩,
    others, infinite,
    (recovers_toJsonText (extremes ⟨0x7FF0000000000000⟩) others).2 infinite⟩

end ParseResult

end Tree

end SqlImage
