/-
This file says that keeping undoes reading. Whatever a tree is read off, the content of
the tree says it again: the same numbers for the tags, the same lists, absent or empty,
and the same texts as far as their first zero character. A reader fails at whatever
the tree could not show, so nothing of what it accepts is lost.
-/

import SqlImage.Image.Read
import SqlImage.Proofs.Outcome
import SqlImage.Proofs.Sound

namespace SqlImage.Image

open SqlImage.Tree

/-! ### Contents with their texts cut -/

mutual

/-- The same content with every text cut at its first zero character. -/
def Content.cut : Content → Content
  | .text value => .text (cutAtZero value)
  | .record kind fields => .record kind (contentsCut fields)
  | .list elements => .list (contentsCut elements)
  | other => other

/-- The same contents with every text cut at its first zero character. -/
def contentsCut : List Content → List Content
  | [] => []
  | head :: tail => head.cut :: contentsCut tail

end

/-! ### Readings that succeed -/

theorem present_eq_ok {α : Type} {read : Reading (Option α)} {value : α} :
    present read = .ok value ↔ read = .ok (some value) := by
  unfold present
  split <;> simp

/-! ### Single fields -/

section Fields

variable {content : Content}

theorem tagContent_of_read {α : Type} [Tag α] [DecidableEq α] [Tag.Complete α] {tag : α}
    (read : readTag content = .ok tag) : tagContent tag = content.cut := by
  unfold readTag at read
  split at read
  · split at read
    · rename_i ordinal _ found
      cases read
      exact congrArg Content.tag (Tag.ofNat_ordinal_of_ofOrdinal? found)
    · cases read
  · cases read

theorem flag_of_read {value : Bool} (read : readFlag content = .ok value) :
    .flag value = content.cut := by
  cases content <;> cases read
  rfl

theorem place_of_read {value : Int32} (read : readPlace content = .ok value) :
    .place value = content.cut := by
  cases content <;> cases read
  rfl

theorem int_of_read {value : Int64} (read : readInt content = .ok value) :
    .int value = content.cut := by
  cases content <;> cases read
  rfl

theorem size_of_read {value : UInt64} (read : readSize content = .ok value) :
    .size value = content.cut := by
  cases content <;> cases read
  rfl

theorem double_of_read {value : Double} (read : readDouble content = .ok value) :
    .double value = content.cut := by
  cases content <;> cases read
  rfl

theorem optionalTextContent_of_read {text : Option String} (read : readText content = .ok text) :
    optionalTextContent text = content.cut := by
  cases content <;> cases read <;> rfl

theorem textContent_of_read {text : String} (read : present (readText content) = .ok text) :
    textContent text = content.cut :=
  optionalTextContent_of_read (present_eq_ok.mp read)

theorem textContents_of_read {texts : List String} {contents : List Content}
    (read : readTexts contents = .ok texts) : texts.map textContent = contentsCut contents := by
  induction contents generalizing texts with
  | nil =>
    cases read
    rfl
  | cons head tail inductionHypothesis =>
    simp only [readTexts, bind_eq_ok, pure_eq_ok] at read
    obtain ⟨text, textRead, others, othersRead, rfl⟩ := read
    rw [List.map_cons, textContent_of_read textRead, inductionHypothesis othersRead, contentsCut]

theorem optionalColumnsContent_of_read {columns : Option (List String)}
    (read : readTextList content = .ok columns) :
    optionalColumnsContent columns = content.cut := by
  unfold readTextList at read
  split at read
  · cases read
    rfl
  · simp only [bind_eq_ok, pure_eq_ok] at read
    obtain ⟨texts, textsRead, rfl⟩ := read
    rw [optionalColumnsContent, textContents_of_read textsRead, Content.cut]
  · cases read

theorem optionalAliasContent_of_read {label : Option Alias} (read : readAlias content = .ok label) :
    optionalAliasContent label = content.cut := by
  unfold readAlias at read
  split at read
  · cases read
    rfl
  · simp only [bind_eq_ok, pure_eq_ok] at read
    obtain ⟨name, nameRead, columns, columnsRead, rfl⟩ := read
    simp only [optionalAliasContent, Alias.content, textContent_of_read nameRead,
      optionalColumnsContent_of_read columnsRead, Content.cut, contentsCut]
  · cases read

end Fields

/-! ### Nodes -/

mutual

theorem baseContents_of_read : (base : Base) → {kind stringLength hints : Content} →
    readBase kind stringLength (readExprList hints) = .ok base →
    base.contents = contentsCut [kind, stringLength, hints]
  | ⟨_, _, baseHints⟩, _, _, _, read => by
    simp only [readBase, bind_eq_ok, pure_eq_ok] at read
    obtain ⟨_, kindRead, _, lengthRead, _, hintsRead, same⟩ := read
    cases same
    rw [Base.contents, tagContent_of_read kindRead, size_of_read lengthRead,
      optionalExprsContent_of_read baseHints hintsRead]
    rfl

theorem selectContent_of_read : (select : Select) → {content : Content} →
    readSelect content = .ok (some select) → select.content = content.cut
  | ⟨base, fromTable, _, selectList, whereClause, groupBy, setOperations, order,
      withDescriptions, limit⟩, _, read => by
    unfold readSelect at read
    split at read
    · cases read
    · simp only [bind_eq_ok, pure_eq_ok, Option.some.injEq] at read
      obtain ⟨_, baseRead, _, fromRead, _, distinctRead, _, listRead, _, whereRead, _, groupRead,
        _, operationsRead, _, orderRead, _, withRead, _, limitRead, same⟩ := read
      cases same
      rw [Select.content, baseContents_of_read base baseRead,
        optionalTableRefContent_of_read fromTable fromRead, flag_of_read distinctRead,
        optionalExprsContent_of_read selectList listRead,
        optionalExprContent_of_read whereClause whereRead,
        optionalGroupByContent_of_read groupBy groupRead,
        optionalSetOperationsContent_of_read setOperations operationsRead,
        optionalOrdersContent_of_read order orderRead,
        optionalWithsContent_of_read withDescriptions withRead,
        optionalLimitContent_of_read limit limitRead]
      rfl
    · cases read

theorem optionalSelectContent_of_read : (select : Option Select) → {content : Content} →
    readSelect content = .ok select → optionalSelectContent select = content.cut
  | none, _, read => by
    unfold readSelect at read
    split at read
    · rfl
    · simp only [bind_eq_ok, pure_eq_ok, reduceCtorEq, and_false, exists_false] at read
    · cases read
  | some select, _, read => selectContent_of_read select read

theorem exprContent_of_read : (expr : Expr) → {content : Content} →
    readExpr content = .ok (some expr) → expr.content = content.cut
  | ⟨_, expr, expr2, exprList, select, _, _, _, _, _, _, _, _, _, _⟩, _, read => by
    unfold readExpr at read
    split at read
    · cases read
    · simp only [bind_eq_ok, pure_eq_ok, Option.some.injEq] at read
      obtain ⟨_, kindRead, _, exprRead, _, expr2Read, _, listRead, _, selectRead, _, nameRead, _,
        tableRead, _, labelRead, _, fvalRead, _, ivalRead, _, ival2Read, _, fieldRead, _,
        boolRead, _, opRead, _, distinctRead, same⟩ := read
      cases same
      rw [Expr.content, tagContent_of_read kindRead, optionalExprContent_of_read expr exprRead,
        optionalExprContent_of_read expr2 expr2Read, optionalExprsContent_of_read exprList listRead,
        optionalSelectContent_of_read select selectRead, optionalTextContent_of_read nameRead,
        optionalTextContent_of_read tableRead, optionalTextContent_of_read labelRead,
        double_of_read fvalRead, int_of_read ivalRead, int_of_read ival2Read,
        tagContent_of_read fieldRead, flag_of_read boolRead, tagContent_of_read opRead,
        flag_of_read distinctRead]
      rfl
    · cases read

theorem optionalExprContent_of_read : (expr : Option Expr) → {content : Content} →
    readExpr content = .ok expr → optionalExprContent expr = content.cut
  | none, _, read => by
    unfold readExpr at read
    split at read
    · rfl
    · simp only [bind_eq_ok, pure_eq_ok, reduceCtorEq, and_false, exists_false] at read
    · cases read
  | some expr, _, read => exprContent_of_read expr read

theorem exprsContents_of_read : (exprs : List Expr) → {contents : List Content} →
    readExprs contents = .ok exprs → exprsContents exprs = contentsCut contents
  | _, [], read => by
    cases read
    rfl
  | [], _ :: _, read => by
    simp only [readExprs, bind_eq_ok, pure_eq_ok, reduceCtorEq, and_false, exists_false] at read
  | expr :: others, _ :: _, read => by
    simp only [readExprs, bind_eq_ok, pure_eq_ok, present_eq_ok] at read
    obtain ⟨_, firstRead, _, othersRead, same⟩ := read
    cases same
    rw [exprsContents, exprContent_of_read expr firstRead,
      exprsContents_of_read others othersRead, contentsCut]

theorem optionalExprsContent_of_read : (exprs : Option (List Expr)) → {content : Content} →
    readExprList content = .ok exprs → optionalExprsContent exprs = content.cut
  | none, _, read => by
    unfold readExprList at read
    split at read
    · rfl
    · simp only [bind_eq_ok, pure_eq_ok, reduceCtorEq, and_false, exists_false] at read
    · cases read
  | some exprs, _, read => by
    unfold readExprList at read
    split at read
    · cases read
    · simp only [bind_eq_ok, pure_eq_ok, Option.some.injEq] at read
      obtain ⟨_, allRead, same⟩ := read
      cases same
      rw [optionalExprsContent, exprsContents_of_read exprs allRead, Content.cut]
    · cases read

theorem tableContent_of_read : (table : TableRef) → {content : Content} →
    readTable content = .ok (some table) → table.content = content.cut
  | ⟨_, _, _, _, select, list, join⟩, _, read => by
    unfold readTable at read
    split at read
    · cases read
    · simp only [bind_eq_ok, pure_eq_ok, Option.some.injEq] at read
      obtain ⟨_, kindRead, _, schemaRead, _, nameRead, _, labelRead, _, selectRead, _, listRead, _,
        joinRead, same⟩ := read
      cases same
      rw [TableRef.content, tagContent_of_read kindRead,
        optionalTextContent_of_read schemaRead, optionalTextContent_of_read nameRead,
        optionalAliasContent_of_read labelRead, optionalSelectContent_of_read select selectRead,
        optionalTableRefsContent_of_read list listRead, optionalJoinContent_of_read join joinRead]
      rfl
    · cases read

theorem optionalTableRefContent_of_read : (table : Option TableRef) → {content : Content} →
    readTable content = .ok table → optionalTableRefContent table = content.cut
  | none, _, read => by
    unfold readTable at read
    split at read
    · rfl
    · simp only [bind_eq_ok, pure_eq_ok, reduceCtorEq, and_false, exists_false] at read
    · cases read
  | some table, _, read => tableContent_of_read table read

theorem tableRefsContents_of_read : (tables : List TableRef) → {contents : List Content} →
    readTables contents = .ok tables → tableRefsContents tables = contentsCut contents
  | _, [], read => by
    cases read
    rfl
  | [], _ :: _, read => by
    simp only [readTables, bind_eq_ok, pure_eq_ok, reduceCtorEq, and_false, exists_false] at read
  | table :: others, _ :: _, read => by
    simp only [readTables, bind_eq_ok, pure_eq_ok, present_eq_ok] at read
    obtain ⟨_, firstRead, _, othersRead, same⟩ := read
    cases same
    rw [tableRefsContents, tableContent_of_read table firstRead,
      tableRefsContents_of_read others othersRead, contentsCut]

theorem optionalTableRefsContent_of_read : (tables : Option (List TableRef)) → {content : Content} →
    readTableList content = .ok tables → optionalTableRefsContent tables = content.cut
  | none, _, read => by
    unfold readTableList at read
    split at read
    · rfl
    · simp only [bind_eq_ok, pure_eq_ok, reduceCtorEq, and_false, exists_false] at read
    · cases read
  | some tables, _, read => by
    unfold readTableList at read
    split at read
    · cases read
    · simp only [bind_eq_ok, pure_eq_ok, Option.some.injEq] at read
      obtain ⟨_, allRead, same⟩ := read
      cases same
      rw [optionalTableRefsContent, tableRefsContents_of_read tables allRead, Content.cut]
    · cases read

theorem joinContent_of_read : (join : Join) → {content : Content} →
    readJoin content = .ok (some join) → join.content = content.cut
  | ⟨left, right, condition, _⟩, _, read => by
    unfold readJoin at read
    split at read
    · cases read
    · simp only [bind_eq_ok, pure_eq_ok, present_eq_ok, Option.some.injEq] at read
      obtain ⟨_, leftRead, _, rightRead, _, conditionRead, _, kindRead, same⟩ := read
      cases same
      rw [Join.content, tableContent_of_read left leftRead, tableContent_of_read right rightRead,
        optionalExprContent_of_read condition conditionRead, tagContent_of_read kindRead]
      rfl
    · cases read

theorem optionalJoinContent_of_read : (join : Option Join) → {content : Content} →
    readJoin content = .ok join → optionalJoinContent join = content.cut
  | none, _, read => by
    unfold readJoin at read
    split at read
    · rfl
    · simp only [bind_eq_ok, pure_eq_ok, reduceCtorEq, and_false, exists_false] at read
    · cases read
  | some join, _, read => joinContent_of_read join read

theorem groupByContent_of_read : (groupBy : GroupBy) → {content : Content} →
    readGroupBy content = .ok (some groupBy) → groupBy.content = content.cut
  | ⟨columns, having⟩, _, read => by
    unfold readGroupBy at read
    split at read
    · cases read
    · simp only [bind_eq_ok, pure_eq_ok, Option.some.injEq] at read
      obtain ⟨_, columnsRead, _, havingRead, same⟩ := read
      cases same
      rw [GroupBy.content, optionalExprsContent_of_read columns columnsRead,
        optionalExprContent_of_read having havingRead]
      rfl
    · cases read

theorem optionalGroupByContent_of_read : (groupBy : Option GroupBy) → {content : Content} →
    readGroupBy content = .ok groupBy → optionalGroupByContent groupBy = content.cut
  | none, _, read => by
    unfold readGroupBy at read
    split at read
    · rfl
    · simp only [bind_eq_ok, pure_eq_ok, reduceCtorEq, and_false, exists_false] at read
    · cases read
  | some groupBy, _, read => groupByContent_of_read groupBy read

theorem orderContent_of_read : (order : Order) → {content : Content} →
    readOrder content = .ok (some order) → order.content = content.cut
  | ⟨_, expr⟩, _, read => by
    unfold readOrder at read
    split at read
    · cases read
    · simp only [bind_eq_ok, pure_eq_ok, present_eq_ok, Option.some.injEq] at read
      obtain ⟨_, kindRead, _, exprRead, same⟩ := read
      cases same
      rw [Order.content, tagContent_of_read kindRead, exprContent_of_read expr exprRead]
      rfl
    · cases read

theorem ordersContents_of_read : (orders : List Order) → {contents : List Content} →
    readOrders contents = .ok orders → ordersContents orders = contentsCut contents
  | _, [], read => by
    cases read
    rfl
  | [], _ :: _, read => by
    simp only [readOrders, bind_eq_ok, pure_eq_ok, reduceCtorEq, and_false, exists_false] at read
  | order :: others, _ :: _, read => by
    simp only [readOrders, bind_eq_ok, pure_eq_ok, present_eq_ok] at read
    obtain ⟨_, firstRead, _, othersRead, same⟩ := read
    cases same
    rw [ordersContents, orderContent_of_read order firstRead,
      ordersContents_of_read others othersRead, contentsCut]

theorem optionalOrdersContent_of_read : (orders : Option (List Order)) → {content : Content} →
    readOrderList content = .ok orders → optionalOrdersContent orders = content.cut
  | none, _, read => by
    unfold readOrderList at read
    split at read
    · rfl
    · simp only [bind_eq_ok, pure_eq_ok, reduceCtorEq, and_false, exists_false] at read
    · cases read
  | some orders, _, read => by
    unfold readOrderList at read
    split at read
    · cases read
    · simp only [bind_eq_ok, pure_eq_ok, Option.some.injEq] at read
      obtain ⟨_, allRead, same⟩ := read
      cases same
      rw [optionalOrdersContent, ordersContents_of_read orders allRead, Content.cut]
    · cases read

theorem withContent_of_read : (withQuery : With) → {content : Content} →
    readWith content = .ok (some withQuery) → withQuery.content = content.cut
  | ⟨_, select⟩, _, read => by
    unfold readWith at read
    split at read
    · cases read
    · simp only [bind_eq_ok, pure_eq_ok, present_eq_ok, Option.some.injEq] at read
      obtain ⟨_, labelRead, _, selectRead, same⟩ := read
      cases same
      rw [With.content, ← optionalTextContent, optionalTextContent_of_read labelRead,
        selectContent_of_read select selectRead]
      rfl
    · cases read

theorem withsContents_of_read : (withs : List With) → {contents : List Content} →
    readWiths contents = .ok withs → withsContents withs = contentsCut contents
  | _, [], read => by
    cases read
    rfl
  | [], _ :: _, read => by
    simp only [readWiths, bind_eq_ok, pure_eq_ok, reduceCtorEq, and_false, exists_false] at read
  | withQuery :: others, _ :: _, read => by
    simp only [readWiths, bind_eq_ok, pure_eq_ok, present_eq_ok] at read
    obtain ⟨_, firstRead, _, othersRead, same⟩ := read
    cases same
    rw [withsContents, withContent_of_read withQuery firstRead,
      withsContents_of_read others othersRead, contentsCut]

theorem optionalWithsContent_of_read : (withs : Option (List With)) → {content : Content} →
    readWithList content = .ok withs → optionalWithsContent withs = content.cut
  | none, _, read => by
    unfold readWithList at read
    split at read
    · rfl
    · simp only [bind_eq_ok, pure_eq_ok, reduceCtorEq, and_false, exists_false] at read
    · cases read
  | some withs, _, read => by
    unfold readWithList at read
    split at read
    · cases read
    · simp only [bind_eq_ok, pure_eq_ok, Option.some.injEq] at read
      obtain ⟨_, allRead, same⟩ := read
      cases same
      rw [optionalWithsContent, withsContents_of_read withs allRead, Content.cut]
    · cases read

theorem limitContent_of_read : (limit : Limit) → {content : Content} →
    readLimit content = .ok (some limit) → limit.content = content.cut
  | ⟨limit, offset⟩, _, read => by
    unfold readLimit at read
    split at read
    · cases read
    · simp only [bind_eq_ok, pure_eq_ok, Option.some.injEq] at read
      obtain ⟨_, limitRead, _, offsetRead, same⟩ := read
      cases same
      rw [Limit.content, optionalExprContent_of_read limit limitRead,
        optionalExprContent_of_read offset offsetRead]
      rfl
    · cases read

theorem optionalLimitContent_of_read : (limit : Option Limit) → {content : Content} →
    readLimit content = .ok limit → optionalLimitContent limit = content.cut
  | none, _, read => by
    unfold readLimit at read
    split at read
    · rfl
    · simp only [bind_eq_ok, pure_eq_ok, reduceCtorEq, and_false, exists_false] at read
    · cases read
  | some limit, _, read => limitContent_of_read limit read

theorem operationContent_of_read : (operation : SetOperation) → {content : Content} →
    readSetOperation content = .ok (some operation) → operation.content = content.cut
  | ⟨_, _, nestedSelect, resultOrder, resultLimit⟩, _, read => by
    unfold readSetOperation at read
    split at read
    · cases read
    · simp only [bind_eq_ok, pure_eq_ok, present_eq_ok, Option.some.injEq] at read
      obtain ⟨_, kindRead, _, allRead, _, selectRead, _, orderRead, _, limitRead, same⟩ := read
      cases same
      rw [SetOperation.content, tagContent_of_read kindRead, flag_of_read allRead,
        selectContent_of_read nestedSelect selectRead,
        optionalOrdersContent_of_read resultOrder orderRead,
        optionalLimitContent_of_read resultLimit limitRead]
      rfl
    · cases read

theorem setOperationsContents_of_read : (operations : List SetOperation) →
    {contents : List Content} → readSetOperations contents = .ok operations →
      setOperationsContents operations = contentsCut contents
  | _, [], read => by
    cases read
    rfl
  | [], _ :: _, read => by
    simp only [readSetOperations, bind_eq_ok, pure_eq_ok, reduceCtorEq, and_false,
      exists_false] at read
  | operation :: others, _ :: _, read => by
    simp only [readSetOperations, bind_eq_ok, pure_eq_ok, present_eq_ok] at read
    obtain ⟨_, firstRead, _, othersRead, same⟩ := read
    cases same
    rw [setOperationsContents, operationContent_of_read operation firstRead,
      setOperationsContents_of_read others othersRead, contentsCut]

theorem optionalSetOperationsContent_of_read : (operations : Option (List SetOperation)) →
    {content : Content} → readSetOperationList content = .ok operations →
      optionalSetOperationsContent operations = content.cut
  | none, _, read => by
    unfold readSetOperationList at read
    split at read
    · rfl
    · simp only [bind_eq_ok, pure_eq_ok, reduceCtorEq, and_false, exists_false] at read
    · cases read
  | some operations, _, read => by
    unfold readSetOperationList at read
    split at read
    · cases read
    · simp only [bind_eq_ok, pure_eq_ok, Option.some.injEq] at read
      obtain ⟨_, allRead, same⟩ := read
      cases same
      rw [optionalSetOperationsContent, setOperationsContents_of_read operations allRead,
        Content.cut]
    · cases read

end

/-! ### Statements -/

theorem laidOut_contentsCut (kind : Kind) (fields : List Content) :
    kind.laidOut (contentsCut fields) = kind.laidOut fields := by
  cases kind <;> try rfl
  cases fields with
  | nil => rfl
  | cons head tail => cases head <;> rfl

/-- A statement that is laid out as a select is tagged as one, and no other is. -/
theorem laidOut_tagContent (kind : StatementKind) (rest : List Content) :
    Kind.statement.laidOut (tagContent kind :: rest) = (Routine.ofKind kind).kind := by
  rw [tagContent, Kind.laidOut, Routine.ofOrdinal_ordinal]
  cases Routine.ofKind kind <;> rfl

theorem Statement.base_ofBase (base : Base) : (Statement.ofBase base).base = base := by
  obtain ⟨kind, stringLength, hints⟩ := base
  cases kind <;> rfl

/-- A content that stands where a statement is meant is laid out by its tag. -/
def LaidOutByTag (content : Content) : Prop :=
  ∀ actual fields, content = .record actual fields → Kind.statement.laidOut fields = actual

/-- The content of a statement is what it was read off, if that was laid out by its tag. -/
theorem statementContent_of_read {content : Content} (laidOut : LaidOutByTag content)
    {statement : Statement} (read : readStatement content = .ok (some statement)) :
    statement.content = content.cut := by
  unfold readStatement at read
  split at read
  · cases read
  · simp only [bind_eq_ok, pure_eq_ok, Option.some.injEq] at read
    obtain ⟨base, baseRead, rfl⟩ := read
    have contents := baseContents_of_read base baseRead
    obtain ⟨rest, shown⟩ := base.contents_eq
    have tagged := laidOut _ _ rfl
    rw [← laidOut_contentsCut, ← contents, shown, laidOut_tagContent] at tagged
    have untagged : (Statement.ofBase base).base.kind ≠ .select := by
      intro same
      rw [Statement.base_ofBase] at same
      rw [same] at tagged
      cases tagged
    rw [Statement.content_of_ne_select untagged, Statement.base_ofBase, contents]
    rfl
  · simp only [bind_eq_ok, pure_eq_ok] at read
    obtain ⟨select, selectRead, mapped⟩ := read
    obtain ⟨body, rfl, rfl⟩ := Option.map_eq_some_iff.mp mapped
    have same := selectContent_of_read body selectRead
    obtain ⟨rest, shown⟩ := body.content_eq
    rw [shown] at same
    cases content with
    | record actual fields =>
      rw [Content.cut, Content.record.injEq] at same
      obtain ⟨rfl, contents⟩ := same
      have tagged := laidOut _ _ rfl
      rw [← laidOut_contentsCut, ← contents, laidOut_tagContent] at tagged
      have isSelect : body.base.kind = .select := by
        by_contra untagged
        rw [Routine.ofKind_of_ne_select untagged] at tagged
        cases tagged
      have inFull : (Statement.select body).content = body.content :=
        Statement.content_of_select isSelect
      rw [inFull]
      exact selectContent_of_read body selectRead
    | _ => cases same

theorem statementContents_of_read {statements : List Statement} {contents : List Content}
    (laidOut : ∀ content ∈ contents, LaidOutByTag content)
    (read : readStatements contents = .ok statements) :
    statements.map Statement.content = contentsCut contents := by
  induction contents generalizing statements with
  | nil =>
    cases read
    rfl
  | cons head tail inductionHypothesis =>
    obtain ⟨headLaidOut, tailLaidOut⟩ := List.forall_mem_cons.mp laidOut
    simp only [readStatements, bind_eq_ok, pure_eq_ok, present_eq_ok] at read
    obtain ⟨statement, headRead, others, othersRead, rfl⟩ := read
    rw [List.map_cons, statementContent_of_read headLaidOut headRead,
      inductionHypothesis tailLaidOut othersRead, contentsCut]

/-! ### Results -/

/-- A message, or an empty one if there is none. -/
def Content.orEmpty : Content → Content
  | .absent => .text ""
  | content => content

/-- What the image of a result says that was read off another image: of a valid result the
statements, of another one the message and its place. -/
def copied (isValid : Bool) (message line column statements : Content) : Content :=
  .record .result (if isValid then [.flag true, .absent, .place 0, .place 0, statements]
    else [.flag false, message.orEmpty, line, column, .noList])

theorem orEmpty_cut_of_read {content : Content} {text : Option String}
    (read : readText content = .ok text) : textContent (text.getD "") = content.orEmpty.cut := by
  cases content <;> cases read <;> rfl

/-- The content of a result is what it was read off, as far as it counts. -/
theorem resultContent_of_read {flag message line column statements : Content}
    (laidOut : ∀ elements, statements = .list elements →
      ∀ content ∈ elements, LaidOutByTag content)
    {result : ParseResult}
    (read : readResult (.record .result [flag, message, line, column, statements]) = .ok result) :
    flag = .flag result.isValid ∧
      result.content = (copied result.isValid message line column statements).cut := by
  simp only [readResult, bind_eq_ok] at read
  obtain ⟨isValid, flagRead, read⟩ := read
  have flagSame : flag = .flag isValid := by
    cases flag <;> cases flagRead
    rfl
  split at read
  · rename_i valid
    simp only [bind_eq_ok, pure_eq_ok, present_eq_ok] at read
    obtain ⟨list, listRead, rfl⟩ := read
    refine ⟨by rw [flagSame, valid]; rfl, ?_⟩
    unfold readStatementList at listRead
    split at listRead
    · cases listRead
    · rename_i elements
      simp only [bind_eq_ok, pure_eq_ok, Option.some.injEq] at listRead
      obtain ⟨_, elementsRead, rfl⟩ := listRead
      rw [ParseResult.content, statementContents_of_read (laidOut elements rfl) elementsRead]
      rfl
    · cases listRead
  · rename_i invalid
    simp only [bind_eq_ok, pure_eq_ok] at read
    obtain ⟨text, textRead, _, lineRead, _, columnRead, rfl⟩ := read
    refine ⟨by rw [flagSame, Bool.eq_false_iff.mpr invalid]; rfl, ?_⟩
    rw [ParseResult.content, orEmpty_cut_of_read textRead, place_of_read lineRead,
      place_of_read columnRead]
    rfl

end SqlImage.Image
