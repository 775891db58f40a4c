/-
This file lists all that is wrong with an image, in the order of its fields and going
down into a field before the next one. Reading an image stops at the first fault that
it comes across, and that is the first one of the list: tags before or behind the
pointers of their record, whatever is needed and absent, elements of lists. An image
without a fault can be read.
-/

import SqlImage.Proofs.Recopy

namespace SqlImage.Image

open SqlImage.Tree

/-! ### All faults -/

/-- The fault of a number that stands for no tag. -/
def tagFaults (α : Type) [Tag α] (ordinal : UInt32) : List ReadFault :=
  if isKnown α ordinal then [] else [.invalidTag (Tag.title α) ordinal]

/-- The fault of a number that stands for no tag of the list that a field takes its tags from. -/
def Kind.tagFaults (kind : Kind) (name : String) (ordinal : UInt32) : List ReadFault :=
  match kind, name with
  | .statement, "type" => Image.tagFaults StatementKind ordinal
  | .select, "type" => Image.tagFaults StatementKind ordinal
  | .expr, "type" => Image.tagFaults ExprKind ordinal
  | .expr, "datetimeField" => Image.tagFaults DatetimeField ordinal
  | .expr, "opType" => Image.tagFaults Operator ordinal
  | .table, "type" => Image.tagFaults TableKind ordinal
  | .join, "type" => Image.tagFaults JoinKind ordinal
  | .order, "type" => Image.tagFaults SortOrder ordinal
  | .setOperation, "setType" => Image.tagFaults SetKind ordinal
  | _, _ => []

/-- The fault of something that is absent. -/
def Content.absence : Content → List ReadFault
  | .absent => [.invalidPointer]
  | _ => []

/-- What is wrong with a field of a record, apart from what it leads to. -/
def Kind.ownFaults (kind : Kind) (field : Field) (content : Content) : List ReadFault :=
  match field.type, content with
  | .tag, .tag ordinal => kind.tagFaults field.name ordinal
  | .pointer _, content => if field.name ∈ kind.required then content.absence else []
  | _, _ => []

mutual

/-- All that is wrong inside a content. -/
def Content.faults : Content → List ReadFault
  | .record kind fields => fieldsFaults kind kind.fields fields
  | .list elements => elementsFaults elements
  | _ => []

/-- All that is wrong with some fields of a record of a kind. -/
def fieldsFaults (kind : Kind) : List Field → List Content → List ReadFault
  | field :: fields, head :: tail =>
    kind.ownFaults field head ++ head.faults ++ fieldsFaults kind fields tail
  | _, _ => []

/-- All that is wrong with the elements of a list, none of which may be absent. -/
def elementsFaults : List Content → List ReadFault
  | [] => []
  | head :: tail => head.absence ++ head.faults ++ elementsFaults tail

end

/-- All that is wrong with the image of a result. It is needed itself. A valid one needs its
statements, and of another one nothing is looked at that can be wrong. -/
def Content.resultFaults : Content → List ReadFault
  | .absent => [.invalidPointer]
  | .record .result [.flag true, _, _, _, .noList] => [.invalidPointer]
  | .record .result [.flag true, _, _, _, statements] => statements.faults
  | _ => []

/-- All that is wrong with an image in memory. -/
def Heap.faults (heap : Heap) (root : Address) : List ReadFault :=
  match heap.load root with
  | none => []
  | some content => content.resultFaults

/-! ### Stopping at the first fault -/

section FirstFault

variable {α β : Type} {accepts : α → Prop} {answers : β → Prop} {faults others : List ReadFault}

/-- A reading fails with the first of some faults, and if there is none it succeeds with something
that is acceptable. -/
def FirstFault (run : Reading α) (accepts : α → Prop) : List ReadFault → Prop
  | [] => ∃ value, run = .ok value ∧ accepts value
  | fault :: _ => run = .error fault

theorem FirstFault.pure {value : α} (holds : accepts value) :
    FirstFault (Pure.pure value) accepts [] :=
  ⟨value, rfl, holds⟩

/-- Something is read of what is not absent. -/
theorem FirstFault.pure_some {content : Content} {value : α} (there : content ≠ .absent) :
    FirstFault (Pure.pure (some value)) (fun made => made = none ↔ content = .absent) [] :=
  .pure (iff_of_false (Option.some_ne_none value) there)

/-- The faults of the second of two readings stand behind those of the first. -/
theorem FirstFault.bind {run : Reading α} {next : α → Reading β}
    (first : FirstFault run accepts faults)
    (second : ∀ value, accepts value → FirstFault (next value) answers others) :
    FirstFault (run >>= next) answers (faults ++ others) := by
  cases faults with
  | nil =>
    obtain ⟨value, rfl, holds⟩ := first
    exact second value holds
  | cons fault rest =>
    have failed : run = .error fault := first
    rw [failed]
    rfl

theorem FirstFault.map {run : Reading α} {change : α → β} (first : FirstFault run accepts faults)
    (same : ∀ value, accepts value → answers (change value)) :
    FirstFault (run >>= fun value => Pure.pure (change value)) answers faults := by
  rw [← List.append_nil faults]
  exact first.bind fun value holds => .pure (same value holds)

theorem FirstFault.weaken {run : Reading α} (first : FirstFault run accepts faults)
    {less : α → Prop} (weaker : ∀ value, accepts value → less value) :
    FirstFault run less faults := by
  rw [← bind_pure run]
  exact first.map weaker

/-- Where something is read, it may be needed. -/
theorem FirstFault.present {run : Reading (Option α)}
    (first : FirstFault run (fun value => value.isSome = true) faults) :
    FirstFault (Image.present run) (fun _ => True) faults := by
  cases faults with
  | nil =>
    obtain ⟨value, rfl, there⟩ := first
    cases value with
    | none => cases there
    | some value => exact ⟨value, rfl, trivial⟩
  | cons fault rest =>
    have failed : run = .error fault := first
    rw [failed]
    rfl

theorem FirstFault.ok_iff {run : Reading α} (first : FirstFault run accepts faults) :
    (∃ value, run = .ok value) ↔ faults = [] := by
  cases faults with
  | nil =>
    obtain ⟨value, done, -⟩ := first
    exact ⟨fun _ => rfl, fun _ => ⟨value, done⟩⟩
  | cons fault rest =>
    have failed : run = .error fault := first
    rw [failed]
    exact ⟨nofun, nofun⟩

/-- Reading something that may be absent finds its faults, and nothing is read exactly where it is
absent. -/
def Reports (content : Content) (run : Reading (Option α)) : Prop :=
  FirstFault run (fun value => value = none ↔ content = .absent) content.faults

variable {content : Content} {run : Reading (Option α)}

theorem reports_absent : Reports .absent (.ok (none : Option α)) :=
  ⟨none, rfl, Iff.intro (fun _ => rfl) fun _ => rfl⟩

theorem Reports.any (reports : Reports content run) :
    FirstFault run (fun _ => True) content.faults :=
  reports.weaken fun _ _ => trivial

/-- Where something is needed, its absence is one more fault. -/
theorem Reports.present (reports : Reports content run) :
    FirstFault (present run) (fun _ => True) (content.absence ++ content.faults) := by
  by_cases absent : content = .absent
  · subst absent
    obtain ⟨value, rfl, same⟩ := reports
    rw [same.mpr rfl]
    rfl
  · have nothing : content.absence = [] := by
      cases content with
      | absent => exact (absent rfl).elim
      | _ => rfl
    rw [nothing, List.nil_append]
    exact (FirstFault.weaken reports fun value same =>
      Option.isSome_iff_ne_none.mpr (mt same.mp absent)).present

end FirstFault

/-! ### What the readers of the kinds of records report -/

/-- The reader of a kind of record finds the faults of a content. -/
def Kind.Reports : Kind → Content → Prop
  | .result, content => FirstFault (readResult content) (fun _ => True) content.resultFaults
  | .statement, content => Image.Reports content (readStatement content)
  | .select, content => Image.Reports content (readSelect content)
  | .expr, content => Image.Reports content (readExpr content)
  | .table, content => Image.Reports content (readTable content)
  | .label, content => Image.Reports content (readAlias content)
  | .join, content => Image.Reports content (readJoin content)
  | .groupBy, content => Image.Reports content (readGroupBy content)
  | .order, content => Image.Reports content (readOrder content)
  | .withQuery, content => Image.Reports content (readWith content)
  | .limit, content => Image.Reports content (readLimit content)
  | .setOperation, content => Image.Reports content (readSetOperation content)

/-- A content is what a pointer may lead to, and if that is a record, its reader finds the
faults. -/
def Target.Reports : Target → Content → Prop
  | .text, .text _ => True
  | .text, .absent => True
  | .text, _ => False
  | .node kind, content => kind.Reports content

/-- A content is of the type of a field, and the readers of all that it leads to find the
faults. -/
def FieldType.Reports : FieldType → Content → Prop
  | .tag, .tag _ => True
  | .flag, .flag _ => True
  | .place, .place _ => True
  | .int, .int _ => True
  | .size, .size _ => True
  | .double, .double _ => True
  | .pointer target, content => target.Reports content
  | .sequence _, .noList => True
  | .sequence target, .list elements => ∀ element ∈ elements, target.Reports element
  | _, _ => False

/-- What holds of a content and its field holds of all contents of a record. -/
def FieldsReport : List Field → List Content → Prop
  | [], [] => True
  | field :: fields, head :: tail => field.type.Reports head ∧ FieldsReport fields tail
  | _, _ => False

/-! ### Single fields -/

section Fields

variable {kind : Kind} {name : String} {content : Content}

theorem reports_text (typed : Target.text.Reports content) :
    Reports content (readText content) := by
  cases content with
  | text value => exact FirstFault.pure_some Content.noConfusion
  | absent => exact reports_absent
  | _ => exact typed.elim

/-- A tag, of the list that its field takes its tags from. -/
theorem firstFault_tag {α : Type} [Tag α] (typed : FieldType.tag.Reports content)
    (list : ∀ ordinal, kind.tagFaults name ordinal = tagFaults α ordinal) :
    FirstFault (readTag content : Reading α) (fun _ => True)
      (kind.ownFaults ⟨name, .tag⟩ content ++ content.faults) := by
  cases content with
  | tag ordinal =>
    have own : kind.ownFaults ⟨name, .tag⟩ (.tag ordinal) = tagFaults α ordinal := list ordinal
    have inner : (Content.tag ordinal).faults = [] := rfl
    rw [own, inner, List.append_nil, tagFaults, isKnown, readTag]
    cases (Tag.ofOrdinal? ordinal.toNat : Option α) with
    | none => rfl
    | some tag => exact ⟨tag, rfl, trivial⟩
  | _ => exact typed.elim

theorem firstFault_flag (typed : FieldType.flag.Reports content) :
    FirstFault (readFlag content) (fun _ => True)
      (kind.ownFaults ⟨name, .flag⟩ content ++ content.faults) := by
  cases content with
  | flag value => exact ⟨value, rfl, trivial⟩
  | _ => exact typed.elim

theorem firstFault_int (typed : FieldType.int.Reports content) :
    FirstFault (readInt content) (fun _ => True)
      (kind.ownFaults ⟨name, .int⟩ content ++ content.faults) := by
  cases content with
  | int value => exact ⟨value, rfl, trivial⟩
  | _ => exact typed.elim

theorem firstFault_size (typed : FieldType.size.Reports content) :
    FirstFault (readSize content) (fun _ => True)
      (kind.ownFaults ⟨name, .size⟩ content ++ content.faults) := by
  cases content with
  | size value => exact ⟨value, rfl, trivial⟩
  | _ => exact typed.elim

theorem firstFault_double (typed : FieldType.double.Reports content) :
    FirstFault (readDouble content) (fun _ => True)
      (kind.ownFaults ⟨name, .double⟩ content ++ content.faults) := by
  cases content with
  | double value => exact ⟨value, rfl, trivial⟩
  | _ => exact typed.elim

variable {α : Type} {run : Reading (Option α)} {target : Target}

/-- A pointer of a field that may be absent. -/
theorem Reports.optional (reports : Reports content run) (free : name ∉ kind.required) :
    FirstFault run (fun _ => True)
      (kind.ownFaults ⟨name, .pointer target⟩ content ++ content.faults) := by
  have own : kind.ownFaults ⟨name, .pointer target⟩ content = [] := if_neg free
  rw [own]
  exact reports.any

/-- A pointer of a field that may not be absent. -/
theorem Reports.needed (reports : Reports content run) (demanded : name ∈ kind.required) :
    FirstFault (Image.present run) (fun _ => True)
      (kind.ownFaults ⟨name, .pointer target⟩ content ++ content.faults) := by
  have own : kind.ownFaults ⟨name, .pointer target⟩ content = content.absence := if_pos demanded
  rw [own]
  exact reports.present

end Fields

/-! ### Lists -/

section Lists

variable {α : Type} {readOne : Content → Reading (Option α)}
  {readAll : List Content → Reading (List α)}
  {readList : Content → Reading (Option (List α))}

/-- A reader of lists, by a reader of their elements that is applied to one after the other. -/
structure ReadsEach (readOne : Content → Reading (Option α))
    (readAll : List Content → Reading (List α))
    (readList : Content → Reading (Option (List α))) : Prop where
  nil : readAll [] = .ok []
  cons : ∀ head tail, readAll (head :: tail) = do
    let first ← present (readOne head)
    return first :: (← readAll tail)
  noList : readList .noList = .ok none
  list : ∀ elements, readList (.list elements) = do return some (← readAll elements)

theorem ReadsEach.firstFault_elements (each : ReadsEach readOne readAll readList)
    {elements : List Content} (reports : ∀ element ∈ elements, Reports element (readOne element)) :
    FirstFault (readAll elements) (fun _ => True) (elementsFaults elements) := by
  induction elements with
  | nil => exact ⟨[], each.nil, trivial⟩
  | cons head tail inductionHypothesis =>
    obtain ⟨headReports, tailReports⟩ := List.forall_mem_cons.mp reports
    rw [each.cons, elementsFaults]
    refine headReports.present.bind fun first _ => ?_
    exact (inductionHypothesis tailReports).map fun rest _ => trivial

theorem ReadsEach.firstFault_list (each : ReadsEach readOne readAll readList)
    {elements : List Content} (reports : ∀ element ∈ elements, Reports element (readOne element)) :
    FirstFault (readList (.list elements)) (fun value => value.isSome = true)
      (elementsFaults elements) := by
  rw [each.list]
  exact (each.firstFault_elements reports).map fun all _ => rfl

/-- A sequence of a field. It may be absent, and no element of it may. -/
theorem ReadsEach.firstFault (each : ReadsEach readOne readAll readList) {kind : Kind}
    {name : String} {target : Target} {content : Content}
    (typed : (FieldType.sequence target).Reports content)
    (same : ∀ element, target.Reports element → Reports element (readOne element)) :
    FirstFault (readList content) (fun _ => True)
      (kind.ownFaults ⟨name, .sequence target⟩ content ++ content.faults) := by
  cases content with
  | noList => exact ⟨none, each.noList, trivial⟩
  | list elements =>
    exact (each.firstFault_list fun element member => same element (typed element member)).weaken
      fun all _ => trivial
  | _ => exact typed.elim

theorem readsEach_texts : ReadsEach readText readTexts readTextList :=
  ⟨rfl, fun _ _ => rfl, rfl, fun _ => rfl⟩

theorem readsEach_exprs : ReadsEach readExpr readExprs readExprList :=
  ⟨rfl, fun _ _ => rfl, rfl, fun _ => rfl⟩

theorem readsEach_tables : ReadsEach readTable readTables readTableList :=
  ⟨rfl, fun _ _ => rfl, rfl, fun _ => rfl⟩

theorem readsEach_orders : ReadsEach readOrder readOrders readOrderList :=
  ⟨rfl, fun _ _ => rfl, rfl, fun _ => rfl⟩

theorem readsEach_withs : ReadsEach readWith readWiths readWithList :=
  ⟨rfl, fun _ _ => rfl, rfl, fun _ => rfl⟩

theorem readsEach_setOperations :
    ReadsEach readSetOperation readSetOperations readSetOperationList :=
  ⟨rfl, fun _ _ => rfl, rfl, fun _ => rfl⟩

theorem readsEach_statements : ReadsEach readStatement readStatements readStatementList :=
  ⟨rfl, fun _ _ => rfl, rfl, fun _ => rfl⟩

end Lists

/-! ### Records -/

theorem reports_label : {fields : List Content} → FieldsReport Kind.label.fields fields →
    Kind.label.Reports (.record .label fields)
  | [name, columns], ⟨nameReports, columnsReport, _⟩ => by
    refine (Reports.needed (reports_text nameReports) (by decide)).bind fun name _ => ?_
    refine (readsEach_texts.firstFault columnsReport fun _ => reports_text).bind fun columns _ => ?_
    exact .pure_some Content.noConfusion

theorem reports_statement : {fields : List Content} → FieldsReport Kind.statement.fields fields →
    Kind.statement.Reports (.record .statement fields)
  | [_, _, _], ⟨kindTyped, sizeTyped, hintsReport, _⟩ => by
    simp only [Kind.Reports, readStatement, readBase, bind_assoc, pure_bind]
    refine (firstFault_tag kindTyped fun _ => rfl).bind fun kind _ => ?_
    refine (firstFault_size sizeTyped).bind fun stringLength _ => ?_
    refine (readsEach_exprs.firstFault hintsReport fun _ same => same).bind fun hints _ => ?_
    exact .pure_some Content.noConfusion

theorem reports_select : {fields : List Content} → FieldsReport Kind.select.fields fields →
    Kind.select.Reports (.record .select fields)
  | [_, _, _, _, _, _, _, _, _, _, _, _],
    ⟨kindTyped, sizeTyped, hintsReport, tableReports, distinctTyped, listReport, whereReports,
      groupReports, operationsReport, orderReport, withReport, limitReports, _⟩ => by
    simp only [Kind.Reports, readSelect, readBase, bind_assoc, pure_bind]
    refine (firstFault_tag kindTyped fun _ => rfl).bind fun kind _ => ?_
    refine (firstFault_size sizeTyped).bind fun stringLength _ => ?_
    refine (readsEach_exprs.firstFault hintsReport fun _ same => same).bind fun hints _ => ?_
    refine (Reports.optional tableReports (by decide)).bind fun fromTable _ => ?_
    refine (firstFault_flag distinctTyped).bind fun selectDistinct _ => ?_
    refine (readsEach_exprs.firstFault listReport fun _ same => same).bind fun selectList _ => ?_
    refine (Reports.optional whereReports (by decide)).bind fun whereClause _ => ?_
    refine (Reports.optional groupReports (by decide)).bind fun groupBy _ => ?_
    refine (readsEach_setOperations.firstFault operationsReport fun _ same => same).bind
      fun setOperations _ => ?_
    refine (readsEach_orders.firstFault orderReport fun _ same => same).bind fun order _ => ?_
    refine (readsEach_withs.firstFault withReport fun _ same => same).bind
      fun withDescriptions _ => ?_
    refine (Reports.optional limitReports (by decide)).bind fun limit _ => ?_
    exact .pure_some Content.noConfusion

theorem reports_expr : {fields : List Content} → FieldsReport Kind.expr.fields fields →
    Kind.expr.Reports (.record .expr fields)
  | [_, _, _, _, _, _, _, _, _, _, _, _, _, _, _],
    ⟨kindTyped, exprReports, expr2Reports, listReport, selectReports, nameReports, tableReports,
      labelReports, fvalTyped, ivalTyped, ival2Typed, fieldTyped, boolTyped, opTyped,
      distinctTyped, _⟩ => by
    refine (firstFault_tag kindTyped fun _ => rfl).bind fun kind _ => ?_
    refine (Reports.optional exprReports (by decide)).bind fun expr _ => ?_
    refine (Reports.optional expr2Reports (by decide)).bind fun expr2 _ => ?_
    refine (readsEach_exprs.firstFault listReport fun _ same => same).bind fun exprList _ => ?_
    refine (Reports.optional selectReports (by decide)).bind fun select _ => ?_
    refine (Reports.optional (reports_text nameReports) (by decide)).bind fun name _ => ?_
    refine (Reports.optional (reports_text tableReports) (by decide)).bind fun table _ => ?_
    refine (Reports.optional (reports_text labelReports) (by decide)).bind fun label _ => ?_
    refine (firstFault_double fvalTyped).bind fun fval _ => ?_
    refine (firstFault_int ivalTyped).bind fun ival _ => ?_
    refine (firstFault_int ival2Typed).bind fun ival2 _ => ?_
    refine (firstFault_tag fieldTyped fun _ => rfl).bind fun datetimeField _ => ?_
    refine (firstFault_flag boolTyped).bind fun isBoolLiteral _ => ?_
    refine (firstFault_tag opTyped fun _ => rfl).bind fun opType _ => ?_
    refine (firstFault_flag distinctTyped).bind fun distinct _ => ?_
    exact .pure_some Content.noConfusion

theorem reports_table : {fields : List Content} → FieldsReport Kind.table.fields fields →
    Kind.table.Reports (.record .table fields)
  | [_, _, _, _, _, _, _],
    ⟨kindTyped, schemaReports, nameReports, labelReports, selectReports, listReport,
      joinReports, _⟩ => by
    refine (firstFault_tag kindTyped fun _ => rfl).bind fun kind _ => ?_
    refine (Reports.optional (reports_text schemaReports) (by decide)).bind fun schema _ => ?_
    refine (Reports.optional (reports_text nameReports) (by decide)).bind fun name _ => ?_
    refine (Reports.optional labelReports (by decide)).bind fun label _ => ?_
    refine (Reports.optional selectReports (by decide)).bind fun select _ => ?_
    refine (readsEach_tables.firstFault listReport fun _ same => same).bind fun list _ => ?_
    refine (Reports.optional joinReports (by decide)).bind fun join _ => ?_
    exact .pure_some Content.noConfusion

theorem reports_join : {fields : List Content} → FieldsReport Kind.join.fields fields →
    Kind.join.Reports (.record .join fields)
  | [_, _, _, _], ⟨leftReports, rightReports, conditionReports, kindTyped, _⟩ => by
    refine (Reports.needed leftReports (by decide)).bind fun left _ => ?_
    refine (Reports.needed rightReports (by decide)).bind fun right _ => ?_
    refine (Reports.optional conditionReports (by decide)).bind fun condition _ => ?_
    refine (firstFault_tag kindTyped fun _ => rfl).bind fun kind _ => ?_
    exact .pure_some Content.noConfusion

theorem reports_groupBy : {fields : List Content} → FieldsReport Kind.groupBy.fields fields →
    Kind.groupBy.Reports (.record .groupBy fields)
  | [_, _], ⟨columnsReport, havingReports, _⟩ => by
    refine (readsEach_exprs.firstFault columnsReport fun _ same => same).bind fun columns _ => ?_
    refine (Reports.optional havingReports (by decide)).bind fun having _ => ?_
    exact .pure_some Content.noConfusion

theorem reports_order : {fields : List Content} → FieldsReport Kind.order.fields fields →
    Kind.order.Reports (.record .order fields)
  | [_, _], ⟨kindTyped, exprReports, _⟩ => by
    refine (firstFault_tag kindTyped fun _ => rfl).bind fun kind _ => ?_
    refine (Reports.needed exprReports (by decide)).bind fun expr _ => ?_
    exact .pure_some Content.noConfusion

theorem reports_withQuery : {fields : List Content} → FieldsReport Kind.withQuery.fields fields →
    Kind.withQuery.Reports (.record .withQuery fields)
  | [_, _], ⟨labelReports, selectReports, _⟩ => by
    refine (Reports.needed (reports_text labelReports) (by decide)).bind fun label _ => ?_
    refine (Reports.needed selectReports (by decide)).bind fun select _ => ?_
    exact .pure_some Content.noConfusion

theorem reports_limit : {fields : List Content} → FieldsReport Kind.limit.fields fields →
    Kind.limit.Reports (.record .limit fields)
  | [_, _], ⟨limitReports, offsetReports, _⟩ => by
    refine (Reports.optional limitReports (by decide)).bind fun limit _ => ?_
    refine (Reports.optional offsetReports (by decide)).bind fun offset _ => ?_
    exact .pure_some Content.noConfusion

theorem reports_setOperation : {fields : List Content} →
    FieldsReport Kind.setOperation.fields fields →
    Kind.setOperation.Reports (.record .setOperation fields)
  | [_, _, _, _, _],
    ⟨kindTyped, allTyped, selectReports, orderReport, limitReports, _⟩ => by
    refine (firstFault_tag kindTyped fun _ => rfl).bind fun kind _ => ?_
    refine (firstFault_flag allTyped).bind fun isAll _ => ?_
    refine (Reports.needed selectReports (by decide)).bind fun nestedSelect _ => ?_
    refine (readsEach_orders.firstFault orderReport fun _ same => same).bind
      fun resultOrder _ => ?_
    refine (Reports.optional limitReports (by decide)).bind fun resultLimit _ => ?_
    exact .pure_some Content.noConfusion

/-- A statement that is laid out in full is read as a select. -/
theorem reports_statement_of_select {fields : List Content}
    (reports : Kind.select.Reports (.record .select fields)) :
    Kind.statement.Reports (.record .select fields) :=
  FirstFault.map reports fun _ same => Option.map_eq_none_iff.trans same

/-- Of a result that is not valid nothing can be wrong, and of a valid one only the statements. -/
theorem reports_result : {fields : List Content} → FieldsReport Kind.result.fields fields →
    Kind.result.Reports (.record .result fields)
  | [.flag true, _, _, _, .noList], _ => rfl
  | [.flag true, _, _, _, .list _], ⟨_, _, _, _, statementsReport, _⟩ =>
    (readsEach_statements.firstFault_list statementsReport).present.map fun _ _ => trivial
  | [.flag false, message, .place line, .place column, _], ⟨_, messageTyped, _⟩ => by
    have text : ∃ value, readText message = .ok value := by
      cases message with
      | text value => exact ⟨some value, rfl⟩
      | absent => exact ⟨none, rfl⟩
      | _ => exact messageTyped.elim
    obtain ⟨value, found⟩ := text
    refine ⟨.invalid ⟨value.getD "", line, column⟩, ?_, trivial⟩
    simp only [readResult, readFlag, found, readPlace, bind, Except.bind, pure, Except.pure]
    rfl

/-- The kind that a record is seen as is the kind that is meant, or a select in the place of a
statement. -/
theorem Kind.seen_cases (kind : Kind) (slots : List Slot) :
    kind.seen slots = kind ∨ (kind = .statement ∧ kind.seen slots = .select) := by
  unfold Kind.seen
  split
  · split
    · exact .inr ⟨rfl, rfl⟩
    · exact .inl rfl
  · exact .inl rfl

theorem reports_record {kind seen : Kind} {fields : List Content}
    (may : seen = kind ∨ (kind = .statement ∧ seen = .select))
    (below : FieldsReport seen.fields fields) : kind.Reports (.record seen fields) := by
  rcases may with rfl | ⟨rfl, rfl⟩
  · cases seen with
    | result => exact reports_result below
    | statement => exact reports_statement below
    | select => exact reports_select below
    | expr => exact reports_expr below
    | table => exact reports_table below
    | label => exact reports_label below
    | join => exact reports_join below
    | groupBy => exact reports_groupBy below
    | order => exact reports_order below
    | withQuery => exact reports_withQuery below
    | limit => exact reports_limit below
    | setOperation => exact reports_setOperation below
  · exact reports_statement_of_select (reports_select below)

/-! ### Images in memory -/

section Load

variable {heap : Heap} {loadRecord : Kind → Address → Option Content}
  (records : ∀ kind address content, loadRecord kind address = some content →
    kind.Reports content)

include records

theorem reports_loadPointer {target : Target} {pointer : Option Address} {content : Content}
    (found : loadPointer heap loadRecord target pointer = some content) :
    target.Reports content := by
  cases pointer with
  | none =>
    cases found
    cases target with
    | text => exact trivial
    | node kind => cases kind <;> first | rfl | exact reports_absent
  | some address =>
    cases target with
    | text =>
      obtain ⟨value, -, rfl⟩ := Option.map_eq_some_iff.mp found
      exact trivial
    | node kind => exact records kind address content found

theorem reports_loadElements {target : Target} {pointers : List (Option Address)}
    {elements : List Content}
    (found : pointers.mapM (loadPointer heap loadRecord target) = some elements) :
    ∀ element ∈ elements, target.Reports element := by
  induction pointers generalizing elements with
  | nil =>
    cases found
    exact List.forall_mem_nil _
  | cons pointer pointers inductionHypothesis =>
    rw [List.mapM_cons] at found
    obtain ⟨first, firstFound, found⟩ := Option.bind_eq_some_iff.mp found
    obtain ⟨rest, restFound, same⟩ := Option.bind_eq_some_iff.mp found
    cases same
    exact List.forall_mem_cons.mpr
      ⟨reports_loadPointer records firstFound, inductionHypothesis restFound⟩

theorem reports_loadSlot {type : FieldType} {slot : Slot} {content : Content}
    (found : loadSlot heap loadRecord type slot = some content) : type.Reports content := by
  unfold loadSlot at found
  split at found
  case h_7 target pointer => exact reports_loadPointer records found
  case h_10 target address count =>
    obtain ⟨pointers, -, found⟩ := Option.bind_eq_some_iff.mp found
    obtain ⟨elements, elementsFound, same⟩ := Option.bind_eq_some_iff.mp found
    cases same
    exact reports_loadElements records elementsFound
  case h_9 =>
    cases found
    exact List.forall_mem_nil _
  all_goals
    cases found
    try exact trivial

theorem fieldsReport_loadSlots {fields : List Field} {slots : List Slot} {contents : List Content}
    (found : loadSlots heap loadRecord fields slots = some contents) :
    FieldsReport fields contents := by
  induction fields generalizing slots contents with
  | nil =>
    cases found
    exact trivial
  | cons field fields inductionHypothesis =>
    cases slots with
    | nil => cases found
    | cons slot slots =>
      obtain ⟨first, firstFound, found⟩ := Option.bind_eq_some_iff.mp found
      obtain ⟨rest, restFound, same⟩ := Option.bind_eq_some_iff.mp found
      cases same
      exact ⟨reports_loadSlot records firstFound, inductionHypothesis restFound⟩

end Load

namespace Heap

variable {heap : Heap} {root : Address}

theorem record?_seen {kind seen : Kind} {address : Address} {slots : List Slot}
    (found : heap.record? kind address = some (seen, slots)) : kind.seen slots = seen := by
  unfold record? at found
  split at found
  · dsimp only at found
    split at found
    · cases found
      rfl
    · cases found
  · cases found

/-- Whatever a record says, its reader finds the faults. The induction is on the number of pointers
in a row that are followed. -/
theorem reports_loadRecord (fuel : Nat) {kind : Kind} {address : Address} {content : Content}
    (found : heap.loadRecord fuel kind address = some content) : kind.Reports content := by
  induction fuel generalizing kind address content with
  | zero => cases found
  | succ fuel inductionHypothesis =>
    obtain ⟨⟨seen, slots⟩, seenFound, found⟩ := Option.bind_eq_some_iff.mp found
    obtain ⟨fields, fieldsFound, same⟩ := Option.bind_eq_some_iff.mp found
    cases same
    have below := fieldsReport_loadSlots (fun _ _ _ => inductionHypothesis) fieldsFound
    have seenSame := record?_seen seenFound
    exact reports_record (seenSame ▸ kind.seen_cases slots) below

/-- Reading an image that came about by overwriting places of one that was just made ends with the
first of all its faults, and it succeeds exactly if there is none. -/
theorem Reached.read_firstFault (reached : heap.Reached root) :
    ((∃ result, heap.read (some root) = .ok result) ↔ heap.faults root = []) ∧
      ∀ fault rest, heap.faults root = fault :: rest →
        heap.read (some root) = .error (.unreadable fault) := by
  obtain ⟨figure, shows⟩ := reached.shows
  have reports : FirstFault (readResult (figure.content .image)) (fun _ => True)
      (figure.content .image).resultFaults :=
    reports_loadRecord _ shows.load
  have listed : heap.faults root = (figure.content .image).resultFaults := by
    rw [faults, shows.load]
  rw [listed, shows.read, ← reports.ok_iff]
  refine ⟨?_, fun fault rest found => ?_⟩
  · cases readResult (figure.content .image) with
    | ok result => exact ⟨fun _ => ⟨result, rfl⟩, fun _ => ⟨result, rfl⟩⟩
    | error fault => exact ⟨nofun, nofun⟩
  · rw [found] at reports
    have failed : readResult (figure.content .image) = .error fault := reports
    rw [failed]

/-- Two statements with three faults. The kind of the table stands before the list of the select,
though the pointer in the list was lost first, and the statement that passes for nothing known is
the last. Behind it nothing is looked at but its base. -/
theorem read_threeFaults :
    let select : Tree.Statement := .select { Tree.Select.empty with
      fromTable := some { Tree.TableRef.named none "table" with label := some ⟨"t", none⟩ }
      selectList := some [.literalString "first", .literalString "second"] }
    let root := (empty.store (.valid [select, select])).1
    let stored := (empty.store (.valid [select, select])).2
    let changes : List (List Key × Patch) :=
      [([.field "statements", .element 1, .field "selectList", .element 0], .null),
        ([.field "statements", .element 1, .field "type"], .integer 77),
        ([.field "statements", .element 0, .field "selectList", .element 1], .null),
        ([.field "statements", .element 0, .field "fromTable", .field "type"], .integer 99)]
    ∃ damaged, stored.pokes root changes = .ok damaged ∧
      damaged.faults root =
        [.invalidTag "TableRefType" 99, .invalidPointer, .invalidTag "StatementType" 77] ∧
      damaged.read (some root) = .error (.unreadable (.invalidTag "TableRefType" 99)) := by
  intro select root stored changes
  have listed : (match stored.pokes root changes with
    | .ok damaged => decide (damaged.faults root =
        [.invalidTag "TableRefType" 99, .invalidPointer, .invalidTag "StatementType" 77])
    | .error _ => false) = true := by decide +kernel
  cases found : stored.pokes root changes with
  | error fault =>
    rw [found] at listed
    cases listed
  | ok damaged =>
    rw [found] at listed
    have faults := of_decide_eq_true listed
    exact ⟨damaged, rfl, faults,
      (Reached.read_firstFault ⟨empty, .valid [select, select], changes, rfl, found⟩).2 _ _ faults⟩

end Heap

end SqlImage.Image
