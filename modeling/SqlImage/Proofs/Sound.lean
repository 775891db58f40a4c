/-
This file says what the content of a tree looks like. A content is sound for a
field if it is of the type of the field, and so are the contents below it; if no
text in it holds a zero character, no element of a list is absent and nothing that
is needed is absent; if every tag stands for something; and if a statement is laid
out in full exactly when its tag says so. The content of every tree is sound.
-/

import SqlImage.Proofs.Tag
import Mathlib.Data.List.TakeWhile

namespace SqlImage.Image

open SqlImage.Tree

/-! ### What the fields of a record demand -/

/-- The fields of a record of a kind that may not be absent. -/
def Kind.required : Kind → List String
  | .label => ["name"]
  | .join => ["left", "right"]
  | .order => ["expr"]
  | .withQuery => ["alias", "select"]
  | .setOperation => ["nestedSelectStatement"]
  | _ => []

/-- Whether a number stands for a tag. -/
def isKnown (α : Type) [Tag α] (ordinal : UInt32) : Bool :=
  (Tag.ofOrdinal? ordinal.toNat : Option α).isSome

/-- Whether a number stands for a tag of the list that a field takes its tags from. -/
def Kind.knows (kind : Kind) (name : String) (ordinal : UInt32) : Bool :=
  match kind, name with
  | .statement, "type" => isKnown StatementKind ordinal
  | .select, "type" => isKnown StatementKind ordinal
  | .expr, "type" => isKnown ExprKind ordinal
  | .expr, "datetimeField" => isKnown DatetimeField ordinal
  | .expr, "opType" => isKnown Operator ordinal
  | .table, "type" => isKnown TableKind ordinal
  | .join, "type" => isKnown JoinKind ordinal
  | .order, "type" => isKnown SortOrder ordinal
  | .setOperation, "setType" => isKnown SetKind ordinal
  | _, _ => false

/-- Whether a field may have a content, apart from its type. -/
def Kind.admits (kind : Kind) (name : String) : Content → Bool
  | .absent => name ∉ kind.required
  | .tag ordinal => kind.knows name ordinal
  | _ => true

/-- The kind of the record that a pointer meant for `kind` leads to. -/
def Kind.laidOut (kind : Kind) (fields : List Content) : Kind :=
  match kind, fields with
  | .statement, .tag ordinal :: _ =>
    match Routine.ofOrdinal ordinal with
    | .select => .select
    | .baseOnly => .statement
  | kind, _ => kind

/-! ### Sound contents -/

mutual

/-- Whether a content is sound for a field of a type. -/
def Content.Sound : FieldType → Content → Prop
  | .tag, .tag _ => True
  | .flag, .flag _ => True
  | .place, .place _ => True
  | .int, .int _ => True
  | .size, .size _ => True
  | .double, .double _ => True
  | .pointer _, .absent => True
  | .pointer .text, .text value => cutAtZero value = value
  | .pointer (.node kind), .record actual fields =>
    kind.laidOut fields = actual ∧ FieldsSound actual actual.fields fields
  | .sequence _, .noList => True
  | .sequence target, .list elements => ElementsSound target elements
  | _, _ => False
termination_by structural _ content => content

/-- Whether contents are sound for the elements of a list. -/
def ElementsSound (target : Target) : List Content → Prop
  | [] => True
  | head :: tail =>
    (head ≠ .absent ∧ head.Sound (.pointer target)) ∧ ElementsSound target tail
termination_by structural contents => contents

/-- Whether contents are sound for the given fields of a record of a kind. -/
def FieldsSound (kind : Kind) : List Field → List Content → Prop
  | [], [] => True
  | field :: fields, head :: tail =>
    (head.Sound field.type ∧ kind.admits field.name head = true) ∧ FieldsSound kind fields tail
  | _, _ => False
termination_by structural _ contents => contents

end

theorem FieldsSound.append {kind : Kind} {first second : List Field}
    {contents others : List Content} (left : FieldsSound kind first contents)
    (right : FieldsSound kind second others) :
    FieldsSound kind (first ++ second) (contents ++ others) := by
  induction first generalizing contents with
  | nil =>
    cases contents with
    | nil => exact right
    | cons head tail => exact left.elim
  | cons field fields inductionHypothesis =>
    cases contents with
    | nil => exact left.elim
    | cons head tail => exact ⟨left.1, inductionHypothesis left.2⟩

theorem FieldsSound.length {kind : Kind} {fields : List Field} {contents : List Content}
    (sound : FieldsSound kind fields contents) : contents.length = fields.length := by
  induction fields generalizing contents with
  | nil =>
    cases contents with
    | nil => rfl
    | cons head tail => exact sound.elim
  | cons field fields inductionHypothesis =>
    cases contents with
    | nil => exact sound.elim
    | cons head tail => exact congrArg (· + 1) (inductionHypothesis sound.2)

/-! ### Fields without records -/

/-- The number of a tag stands for a tag. -/
theorem isKnown_ordinal {α : Type} [Tag α] [DecidableEq α] [Tag.Complete α] (tag : α) :
    isKnown α (UInt32.ofNat (Tag.ordinal tag)) = true := by
  rw [isKnown, Tag.ofOrdinal?_toNat_ofNat]
  rfl

theorem cutAtZero_cutAtZero (text : String) : cutAtZero (cutAtZero text) = cutAtZero text := by
  unfold cutAtZero
  rw [String.toList_ofList, List.takeWhile_idem]

theorem textContent_sound (text : String) : (textContent text).Sound (.pointer .text) :=
  cutAtZero_cutAtZero text

theorem optionalTextContent_sound (text : Option String) :
    (optionalTextContent text).Sound (.pointer .text) := by
  cases text with
  | none => exact trivial
  | some text => exact textContent_sound text

theorem textsContents_sound (texts : List String) :
    ElementsSound .text (texts.map textContent) := by
  induction texts with
  | nil => exact trivial
  | cons text rest inductionHypothesis =>
    exact ⟨⟨Content.noConfusion, textContent_sound text⟩, inductionHypothesis⟩

/-! ### Fields of a record -/

namespace FieldsSound

variable {kind : Kind} {field : Field} {fields : List Field} {head : Content}
  {tail : List Content}

/-- A field that holds no tag and may be absent. -/
theorem free (sound : head.Sound field.type)
    (demand : field.type ≠ .tag ∧ field.name ∉ kind.required)
    (rest : FieldsSound kind fields tail) : FieldsSound kind (field :: fields) (head :: tail) := by
  refine ⟨⟨sound, ?_⟩, rest⟩
  cases head with
  | tag ordinal =>
    unfold Content.Sound at sound
    split at sound <;> simp_all
  | absent => exact decide_eq_true demand.2
  | _ => rfl

/-- A field that may not be absent. -/
theorem needed (sound : head.Sound field.type) (untagged : field.type ≠ .tag)
    (present : head ≠ .absent) (rest : FieldsSound kind fields tail) :
    FieldsSound kind (field :: fields) (head :: tail) := by
  refine ⟨⟨sound, ?_⟩, rest⟩
  cases head with
  | tag ordinal =>
    unfold Content.Sound at sound
    split at sound <;> simp_all
  | absent => exact (present rfl).elim
  | _ => rfl

/-- A field that holds a tag of its list. -/
theorem tag {α : Type} [Tag α] [DecidableEq α] [Tag.Complete α] {value : α}
    (type : field.type = .tag)
    (list : ∀ ordinal, kind.knows field.name ordinal = isKnown α ordinal)
    (rest : FieldsSound kind fields tail) :
    FieldsSound kind (field :: fields) (tagContent value :: tail) :=
  ⟨⟨by rw [type]; exact trivial, (list _).trans (isKnown_ordinal value)⟩, rest⟩

end FieldsSound

end SqlImage.Image

/-! ### The contents of trees -/

namespace SqlImage.Tree

open SqlImage.Image

theorem optionalColumnsContent_sound (columns : Option (List String)) :
    (optionalColumnsContent columns).Sound (.sequence .text) := by
  cases columns with
  | none => exact trivial
  | some columns => exact textsContents_sound columns

theorem Alias.content_sound (label : Alias) :
    label.content.Sound (.pointer (.node .label)) :=
  ⟨rfl, .needed (textContent_sound label.name) (by decide) Content.noConfusion <|
    .free (optionalColumnsContent_sound label.columns) (by decide) trivial⟩

theorem optionalAliasContent_sound (label : Option Alias) :
    (optionalAliasContent label).Sound (.pointer (.node .label)) := by
  cases label with
  | none => exact trivial
  | some label => exact label.content_sound

theorem Select.content_ne_absent (select : Select) : select.content ≠ .absent := by
  cases select
  exact Content.noConfusion

theorem Expr.content_ne_absent (expr : Expr) : expr.content ≠ .absent := by
  cases expr
  exact Content.noConfusion

theorem TableRef.content_ne_absent (table : TableRef) : table.content ≠ .absent := by
  cases table
  exact Content.noConfusion

mutual

/-- The base is sound wherever it stands. -/
theorem Base.contents_sound {kind : Kind}
    (list : ∀ ordinal, kind.knows "type" ordinal = isKnown StatementKind ordinal)
    (free : kind.required = []) :
    (base : Base) → FieldsSound kind Kind.statementFields base.contents
  | ⟨_, _, hints⟩ =>
    .tag rfl list <|
      .free trivial (by simp [free]) <|
        .free (optionalExprsContent_sound hints) (by simp [free]) trivial

theorem Select.content_sound :
    (select : Select) → select.content.Sound (.pointer (.node .select))
  | ⟨base, fromTable, _, selectList, whereClause, groupBy, setOperations, order,
      withDescriptions, limit⟩ =>
    ⟨rfl, .append (base.contents_sound (fun _ => rfl) rfl) <|
      .free (optionalTableRefContent_sound fromTable) (by decide) <|
      .free trivial (by decide) <|
      .free (optionalExprsContent_sound selectList) (by decide) <|
      .free (optionalExprContent_sound whereClause) (by decide) <|
      .free (optionalGroupByContent_sound groupBy) (by decide) <|
      .free (optionalSetOperationsContent_sound setOperations) (by decide) <|
      .free (optionalOrdersContent_sound order) (by decide) <|
      .free (optionalWithsContent_sound withDescriptions) (by decide) <|
      .free (optionalLimitContent_sound limit) (by decide) trivial⟩

theorem optionalSelectContent_sound :
    (select : Option Select) → (optionalSelectContent select).Sound (.pointer (.node .select))
  | none => trivial
  | some select => select.content_sound

theorem Expr.content_sound : (expr : Expr) → expr.content.Sound (.pointer (.node .expr))
  | ⟨_, expr, expr2, exprList, select, name, table, label, _, _, _, _, _, _, _⟩ =>
    ⟨rfl, .tag rfl (fun _ => rfl) <|
      .free (optionalExprContent_sound expr) (by decide) <|
      .free (optionalExprContent_sound expr2) (by decide) <|
      .free (optionalExprsContent_sound exprList) (by decide) <|
      .free (optionalSelectContent_sound select) (by decide) <|
      .free (optionalTextContent_sound name) (by decide) <|
      .free (optionalTextContent_sound table) (by decide) <|
      .free (optionalTextContent_sound label) (by decide) <|
      .free trivial (by decide) <|
      .free trivial (by decide) <|
      .free trivial (by decide) <|
      .tag rfl (fun _ => rfl) <|
      .free trivial (by decide) <|
      .tag rfl (fun _ => rfl) <|
      .free trivial (by decide) trivial⟩

theorem optionalExprContent_sound :
    (expr : Option Expr) → (optionalExprContent expr).Sound (.pointer (.node .expr))
  | none => trivial
  | some expr => expr.content_sound

theorem exprsContents_sound :
    (exprs : List Expr) → ElementsSound (.node .expr) (exprsContents exprs)
  | [] => trivial
  | head :: tail => ⟨⟨head.content_ne_absent, head.content_sound⟩, exprsContents_sound tail⟩

theorem optionalExprsContent_sound :
    (exprs : Option (List Expr)) → (optionalExprsContent exprs).Sound (.sequence (.node .expr))
  | none => trivial
  | some exprs => exprsContents_sound exprs

theorem TableRef.content_sound :
    (table : TableRef) → table.content.Sound (.pointer (.node .table))
  | ⟨_, schema, name, label, select, list, join⟩ =>
    ⟨rfl, .tag rfl (fun _ => rfl) <|
      .free (optionalTextContent_sound schema) (by decide) <|
      .free (optionalTextContent_sound name) (by decide) <|
      .free (optionalAliasContent_sound label) (by decide) <|
      .free (optionalSelectContent_sound select) (by decide) <|
      .free (optionalTableRefsContent_sound list) (by decide) <|
      .free (optionalJoinContent_sound join) (by decide) trivial⟩

theorem optionalTableRefContent_sound :
    (table : Option TableRef) → (optionalTableRefContent table).Sound (.pointer (.node .table))
  | none => trivial
  | some table => table.content_sound

theorem tableRefsContents_sound :
    (tables : List TableRef) → ElementsSound (.node .table) (tableRefsContents tables)
  | [] => trivial
  | head :: tail =>
    ⟨⟨head.content_ne_absent, head.content_sound⟩, tableRefsContents_sound tail⟩

theorem optionalTableRefsContent_sound : (tables : Option (List TableRef)) →
    (optionalTableRefsContent tables).Sound (.sequence (.node .table))
  | none => trivial
  | some tables => tableRefsContents_sound tables

theorem Join.content_sound : (join : Join) → join.content.Sound (.pointer (.node .join))
  | ⟨left, right, condition, _⟩ =>
    ⟨rfl, .needed left.content_sound (by decide) left.content_ne_absent <|
      .needed right.content_sound (by decide) right.content_ne_absent <|
      .free (optionalExprContent_sound condition) (by decide) <|
      .tag rfl (fun _ => rfl) trivial⟩

theorem optionalJoinContent_sound :
    (join : Option Join) → (optionalJoinContent join).Sound (.pointer (.node .join))
  | none => trivial
  | some join => join.content_sound

theorem GroupBy.content_sound :
    (groupBy : GroupBy) → groupBy.content.Sound (.pointer (.node .groupBy))
  | ⟨columns, having⟩ =>
    ⟨rfl, .free (optionalExprsContent_sound columns) (by decide) <|
      .free (optionalExprContent_sound having) (by decide) trivial⟩

theorem optionalGroupByContent_sound :
    (groupBy : Option GroupBy) → (optionalGroupByContent groupBy).Sound (.pointer (.node .groupBy))
  | none => trivial
  | some groupBy => groupBy.content_sound

theorem Order.content_sound : (order : Order) → order.content.Sound (.pointer (.node .order))
  | ⟨_, expr⟩ =>
    ⟨rfl, .tag rfl (fun _ => rfl) <|
      .needed expr.content_sound (by decide) expr.content_ne_absent trivial⟩

theorem ordersContents_sound :
    (orders : List Order) → ElementsSound (.node .order) (ordersContents orders)
  | [] => trivial
  | ⟨kind, expr⟩ :: tail =>
    ⟨⟨Content.noConfusion, Order.content_sound ⟨kind, expr⟩⟩, ordersContents_sound tail⟩

theorem optionalOrdersContent_sound : (orders : Option (List Order)) →
    (optionalOrdersContent orders).Sound (.sequence (.node .order))
  | none => trivial
  | some orders => ordersContents_sound orders

theorem With.content_sound :
    (withQuery : With) → withQuery.content.Sound (.pointer (.node .withQuery))
  | ⟨label, select⟩ =>
    ⟨rfl, .needed (textContent_sound label) (by decide) Content.noConfusion <|
      .needed select.content_sound (by decide) select.content_ne_absent trivial⟩

theorem withsContents_sound :
    (withs : List With) → ElementsSound (.node .withQuery) (withsContents withs)
  | [] => trivial
  | ⟨label, select⟩ :: tail =>
    ⟨⟨Content.noConfusion, With.content_sound ⟨label, select⟩⟩, withsContents_sound tail⟩

theorem optionalWithsContent_sound : (withs : Option (List With)) →
    (optionalWithsContent withs).Sound (.sequence (.node .withQuery))
  | none => trivial
  | some withs => withsContents_sound withs

theorem Limit.content_sound : (limit : Limit) → limit.content.Sound (.pointer (.node .limit))
  | ⟨limit, offset⟩ =>
    ⟨rfl, .free (optionalExprContent_sound limit) (by decide) <|
      .free (optionalExprContent_sound offset) (by decide) trivial⟩

theorem optionalLimitContent_sound :
    (limit : Option Limit) → (optionalLimitContent limit).Sound (.pointer (.node .limit))
  | none => trivial
  | some limit => limit.content_sound

theorem SetOperation.content_sound :
    (operation : SetOperation) → operation.content.Sound (.pointer (.node .setOperation))
  | ⟨_, _, nestedSelect, resultOrder, resultLimit⟩ =>
    ⟨rfl, .tag rfl (fun _ => rfl) <|
      .free trivial (by decide) <|
      .needed nestedSelect.content_sound (by decide) nestedSelect.content_ne_absent <|
      .free (optionalOrdersContent_sound resultOrder) (by decide) <|
      .free (optionalLimitContent_sound resultLimit) (by decide) trivial⟩

theorem setOperationsContents_sound : (operations : List SetOperation) →
    ElementsSound (.node .setOperation) (setOperationsContents operations)
  | [] => trivial
  | ⟨kind, isAll, nestedSelect, resultOrder, resultLimit⟩ :: tail =>
    ⟨⟨Content.noConfusion,
      SetOperation.content_sound ⟨kind, isAll, nestedSelect, resultOrder, resultLimit⟩⟩,
      setOperationsContents_sound tail⟩

theorem optionalSetOperationsContent_sound : (operations : Option (List SetOperation)) →
    (optionalSetOperationsContent operations).Sound (.sequence (.node .setOperation))
  | none => trivial
  | some operations => setOperationsContents_sound operations

end

/-- A base shows its kind first. -/
theorem Base.contents_eq (base : Base) :
    ∃ rest, base.contents = tagContent base.kind :: rest := by
  obtain ⟨_, _, _⟩ := base
  exact ⟨_, rfl⟩

/-- A select shows its kind first. -/
theorem Select.content_eq (select : Select) :
    ∃ rest, select.content = .record .select (tagContent select.base.kind :: rest) := by
  obtain ⟨⟨_, _, _⟩, _⟩ := select
  exact ⟨_, rfl⟩

/-- A select that is tagged as one may stand where a statement is meant. -/
theorem Select.content_sound_statement (select : Select) (tagged : select.base.kind = .select) :
    select.content.Sound (.pointer (.node .statement)) := by
  obtain ⟨rest, shown⟩ := select.content_eq
  have sound := select.content_sound
  rw [shown] at sound ⊢
  refine ⟨?_, sound.2⟩
  rw [tagContent, Kind.laidOut, Routine.ofOrdinal_ordinal, tagged]
  rfl

/-- A bare statement stands where a statement is meant, if it is not tagged as a select. -/
theorem Base.content_sound_statement (base : Base) (untagged : base.kind ≠ .select) :
    (Content.record .statement base.contents).Sound (.pointer (.node .statement)) := by
  refine ⟨?_, base.contents_sound (fun _ => rfl) rfl⟩
  obtain ⟨rest, shown⟩ := base.contents_eq
  rw [shown, tagContent, Kind.laidOut, Routine.ofOrdinal_ordinal,
    Routine.ofKind_of_ne_select untagged]

theorem Statement.content_sound (statement : Statement) :
    statement.content.Sound (.pointer (.node .statement)) := by
  by_cases tagged : statement.base.kind = .select
  · rw [Statement.content_of_select tagged]
    exact statement.inFull.content_sound_statement (statement.base_inFull ▸ tagged)
  · rw [Statement.content_of_ne_select tagged]
    exact statement.base.content_sound_statement tagged

/-- A statement is laid out for its kind and shows it first. -/
theorem Statement.content_eq (statement : Statement) :
    ∃ rest, statement.content = .record (Routine.ofKind statement.base.kind).kind
      (tagContent statement.base.kind :: rest) := by
  by_cases tagged : statement.base.kind = .select
  · obtain ⟨rest, shown⟩ := statement.inFull.content_eq
    rw [statement.base_inFull] at shown
    exact ⟨rest, by rw [Statement.content_of_select tagged, shown, tagged]; rfl⟩
  · obtain ⟨rest, shown⟩ := statement.base.contents_eq
    refine ⟨rest, ?_⟩
    rw [Statement.content_of_ne_select tagged, shown, Routine.ofKind_of_ne_select tagged]
    rfl

theorem Statement.content_ne_absent (statement : Statement) : statement.content ≠ .absent := by
  obtain ⟨rest, shown⟩ := statement.content_eq
  rw [shown]
  exact Content.noConfusion

theorem statementsContents_sound (statements : List Statement) :
    ElementsSound (.node .statement) (statements.map Statement.content) := by
  induction statements with
  | nil => exact trivial
  | cons head tail inductionHypothesis =>
    exact ⟨⟨head.content_ne_absent, head.content_sound⟩, inductionHypothesis⟩

/-- The content of every result is sound. -/
theorem ParseResult.content_sound (result : ParseResult) :
    result.content.Sound (.pointer (.node .result)) := by
  cases result with
  | valid statements =>
    exact ⟨rfl, .free trivial (by decide) <| .free trivial (by decide) <|
      .free trivial (by decide) <| .free trivial (by decide) <|
      .free (statementsContents_sound statements) (by decide) trivial⟩
  | invalid error =>
    exact ⟨rfl, .free trivial (by decide) <|
      .free (textContent_sound error.message) (by decide) <|
      .free trivial (by decide) <| .free trivial (by decide) <|
      .free trivial (by decide) trivial⟩

end SqlImage.Tree
