/-
This file says that the form of a tree in JSON gives the tree back. A record is read
field by field, and every field gives what was written into it: a tag by its name, an
integer of its full range, a list with the difference between an absent one and an
empty one. The one thing that is lost is a floating-point number that is not finite,
which is written as null, and then no tree is read at all.
-/

import SqlImage.Tree.Json

namespace SqlImage.Tree

open SqlImage.Json (Value)

/-! ### The floating-point numbers of a tree -/

mutual

/-- The floating-point numbers in the base of a statement. -/
def Base.doubles : Base → List Double
  | ⟨_, _, hints⟩ => optionalExprsDoubles hints

/-- The floating-point numbers in a select. -/
def Select.doubles : Select → List Double
  | ⟨base, fromTable, _, selectList, whereClause, groupBy, setOperations, order,
      withDescriptions, limit⟩ =>
    base.doubles ++ (optionalTableRefDoubles fromTable ++ (optionalExprsDoubles selectList ++
      (optionalExprDoubles whereClause ++ (optionalGroupByDoubles groupBy ++
        (optionalSetOperationsDoubles setOperations ++ (optionalOrdersDoubles order ++
          (optionalWithsDoubles withDescriptions ++ optionalLimitDoubles limit)))))))

/-- The floating-point numbers in a select that may be absent. -/
def optionalSelectDoubles : Option Select → List Double
  | none => []
  | some select => select.doubles

/-- The floating-point numbers in an expression. -/
def Expr.doubles : Expr → List Double
  | ⟨_, expr, expr2, exprList, select, _, _, _, fval, _, _, _, _, _, _⟩ =>
    optionalExprDoubles expr ++ (optionalExprDoubles expr2 ++ (optionalExprsDoubles exprList ++
      (optionalSelectDoubles select ++ [fval])))

/-- The floating-point numbers in an expression that may be absent. -/
def optionalExprDoubles : Option Expr → List Double
  | none => []
  | some expr => expr.doubles

/-- The floating-point numbers in expressions. -/
def exprsDoubles : List Expr → List Double
  | [] => []
  | head :: tail => head.doubles ++ exprsDoubles tail

/-- The floating-point numbers in a list of expressions that may be absent. -/
def optionalExprsDoubles : Option (List Expr) → List Double
  | none => []
  | some exprs => exprsDoubles exprs

/-- The floating-point numbers in a table reference. -/
def TableRef.doubles : TableRef → List Double
  | ⟨_, _, _, _, select, list, join⟩ =>
    optionalSelectDoubles select ++ (optionalTableRefsDoubles list ++ optionalJoinDoubles join)

/-- The floating-point numbers in a table reference that may be absent. -/
def optionalTableRefDoubles : Option TableRef → List Double
  | none => []
  | some table => table.doubles

/-- The floating-point numbers in table references. -/
def tableRefsDoubles : List TableRef → List Double
  | [] => []
  | head :: tail => head.doubles ++ tableRefsDoubles tail

/-- The floating-point numbers in a list of table references that may be absent. -/
def optionalTableRefsDoubles : Option (List TableRef) → List Double
  | none => []
  | some tables => tableRefsDoubles tables

/-- The floating-point numbers in a join. -/
def Join.doubles : Join → List Double
  | ⟨left, right, condition, _⟩ =>
    left.doubles ++ (right.doubles ++ optionalExprDoubles condition)

/-- The floating-point numbers in a join that may be absent. -/
def optionalJoinDoubles : Option Join → List Double
  | none => []
  | some join => join.doubles

/-- The floating-point numbers in a grouping. -/
def GroupBy.doubles : GroupBy → List Double
  | ⟨columns, having⟩ => optionalExprsDoubles columns ++ optionalExprDoubles having

/-- The floating-point numbers in a grouping that may be absent. -/
def optionalGroupByDoubles : Option GroupBy → List Double
  | none => []
  | some groupBy => groupBy.doubles

/-- The floating-point numbers in a sort key. -/
def Order.doubles : Order → List Double
  | ⟨_, expr⟩ => expr.doubles

/-- The floating-point numbers in sort keys. -/
def ordersDoubles : List Order → List Double
  | [] => []
  | head :: tail => head.doubles ++ ordersDoubles tail

/-- The floating-point numbers in a list of sort keys that may be absent. -/
def optionalOrdersDoubles : Option (List Order) → List Double
  | none => []
  | some orders => ordersDoubles orders

/-- The floating-point numbers in a named subquery. -/
def With.doubles : With → List Double
  | ⟨_, select⟩ => select.doubles

/-- The floating-point numbers in named subqueries. -/
def withsDoubles : List With → List Double
  | [] => []
  | head :: tail => head.doubles ++ withsDoubles tail

/-- The floating-point numbers in a list of named subqueries that may be absent. -/
def optionalWithsDoubles : Option (List With) → List Double
  | none => []
  | some withs => withsDoubles withs

/-- The floating-point numbers in a limit. -/
def Limit.doubles : Limit → List Double
  | ⟨limit, offset⟩ => optionalExprDoubles limit ++ optionalExprDoubles offset

/-- The floating-point numbers in a limit that may be absent. -/
def optionalLimitDoubles : Option Limit → List Double
  | none => []
  | some limit => limit.doubles

/-- The floating-point numbers in a set operation. -/
def SetOperation.doubles : SetOperation → List Double
  | ⟨_, _, nestedSelect, resultOrder, resultLimit⟩ =>
    nestedSelect.doubles ++ (optionalOrdersDoubles resultOrder ++ optionalLimitDoubles resultLimit)

/-- The floating-point numbers in set operations. -/
def setOperationsDoubles : List SetOperation → List Double
  | [] => []
  | head :: tail => head.doubles ++ setOperationsDoubles tail

/-- The floating-point numbers in a list of set operations that may be absent. -/
def optionalSetOperationsDoubles : Option (List SetOperation) → List Double
  | none => []
  | some operations => setOperationsDoubles operations

end

/-- The floating-point numbers in a statement. -/
def Statement.doubles : Statement → List Double
  | .select body => body.doubles
  | .insert base => base.doubles
  | .update base => base.doubles
  | .delete base => base.doubles
  | .other base => base.doubles

/-- The floating-point numbers in a result. -/
def ParseResult.doubles : ParseResult → List Double
  | .valid statements => statements.flatMap Statement.doubles
  | .invalid _ => []

/-! ### Reading back -/

section Recovers

variable {α β : Type} {run : Option α} {doubles others : List Double} {value : α}

/-- A reading gives a value back, unless one of some floating-point numbers is not finite, and then
it gives nothing. -/
def Recovers (run : Option α) (doubles : List Double) (value : α) : Prop :=
  run = if doubles.all Double.isFinite then some value else none

theorem recovers_some : Recovers (some value) [] value := rfl

theorem Recovers.bind {next : α → Option β} {whole : β} (first : Recovers run doubles value)
    (second : Recovers (next value) others whole) :
    Recovers (run >>= next) (doubles ++ others) whole := by
  unfold Recovers at *
  rw [first, List.all_append]
  cases doubles.all Double.isFinite with
  | true => exact second
  | false => rfl

/-- A field without any floating-point number. -/
theorem Recovers.bind_plain {next : α → Option β} {whole : β} (first : Recovers run [] value)
    (second : Recovers (next value) others whole) : Recovers (run >>= next) others whole :=
  first.bind second

/-- The last of the fields that hold floating-point numbers. -/
theorem Recovers.bind_last {next : α → Option β} {whole : β}
    (first : Recovers run doubles value) (second : Recovers (next value) [] whole) :
    Recovers (run >>= next) doubles whole := by
  rw [← List.append_nil doubles]
  exact first.bind second

end Recovers

/-! ### Fields -/

section Fields

variable {α : Type} {fuel : Nat} {name : String} {record inner : Value} {read : Value → Option α}
  {doubles : List Double} {value : α}

theorem depth_le_membersDepth {members : List (String × Value)} {member : String × Value}
    (inside : member ∈ members) : member.2.depth ≤ Json.membersDepth members := by
  induction members with
  | nil => cases inside
  | cons head tail inductionHypothesis =>
    rw [Json.membersDepth]
    rcases List.mem_cons.mp inside with rfl | inside
    · exact Nat.le_max_left _ _
    · exact Nat.le_trans (inductionHypothesis inside) (Nat.le_max_right _ _)

/-- A member lies deeper than its object. -/
theorem depth_member? (there : record.member? name = some inner)
    (small : record.depth ≤ fuel + 1) : inner.depth ≤ fuel := by
  cases record with
  | object members =>
    obtain ⟨member, found, rfl⟩ := Option.map_eq_some_iff.mp there
    have inside := List.mem_reverse.mp (List.mem_of_find?_eq_some found)
    rw [Value.depth] at small
    exact Nat.le_trans (depth_le_membersDepth inside) (Nat.le_of_succ_le_succ small)
  | _ => cases there

/-- Every value that is not too deep is read back from its form, together with the floating-point
numbers in it. -/
def RecoversWithin (fuel : Nat) (read : Value → Option α) (encode : α → Value)
    (doubles : α → List Double) : Prop :=
  ∀ value, (encode value).depth ≤ fuel → Recovers (read (encode value)) (doubles value) value

theorem recovers_record {names : List String} {members : List (String × Value)} :
    Recovers (Tree.record names (.object members)) [] (.object members) := rfl

/-- A field that is always there. -/
theorem recovers_required (small : record.depth ≤ fuel + 1)
    (there : record.member? name = some inner)
    (recovers : inner.depth ≤ fuel → Recovers (read inner) doubles value) :
    Recovers (required name read record) doubles value := by
  unfold required
  rw [there]
  exact recovers (depth_member? there small)

section Optional

variable {encode : α → Value} {held : α → List Double}

/-- A field that is null where nothing is. -/
theorem RecoversWithin.optional (recovers : RecoversWithin fuel read encode held)
    (solid : ∀ value, encode value ≠ .null) (content : Option α)
    (small : record.depth ≤ fuel + 1)
    (there : record.member? name = some (content.elim .null encode))
    (listed : doubles = content.elim [] held) :
    Recovers (optional name read record) doubles content := by
  rw [listed]
  unfold Tree.optional
  rw [there]
  cases content with
  | none => rfl
  | some value =>
    have inside : Recovers (read (encode value)) (held value) value :=
      recovers value (depth_member? there small)
    have run : Recovers ((read (encode value)).map some) (held value) (some value) := by
      rw [Option.map_eq_bind]
      exact inside.bind_last rfl
    dsimp only [Option.elim]
    split
    · rename_i missing
      cases missing
    · rename_i nothing
      exact (solid value (Option.some.inj nothing)).elim
    · rename_i same
      cases same
      exact run

/-- How the elements of a list are written, and which floating-point numbers they hold. -/
structure WritesEach (encode : α → Value) (held : α → List Double)
    (encodeAll : List α → List Value) (heldAll : List α → List Double) : Prop where
  nil : encodeAll [] = [] ∧ heldAll [] = []
  cons : ∀ head tail, encodeAll (head :: tail) = encode head :: encodeAll tail ∧
    heldAll (head :: tail) = held head ++ heldAll tail

variable {encodeAll : List α → List Value} {heldAll : List α → List Double}

theorem WritesEach.recovers (each : WritesEach encode held encodeAll heldAll)
    (one : RecoversWithin fuel read encode held) :
    RecoversWithin fuel (listOf read) (fun values => .list (encodeAll values)) heldAll := by
  intro values small
  rw [Value.depth] at small
  have inside := Nat.le_of_succ_le small
  unfold listOf
  dsimp only
  clear small
  induction values with
  | nil =>
    rw [each.nil.1, each.nil.2]
    rfl
  | cons head tail inductionHypothesis =>
    obtain ⟨written, listed⟩ := each.cons head tail
    rw [written, Json.elementsDepth] at inside
    rw [written, listed, List.mapM_cons]
    refine (one head (Nat.le_trans (Nat.le_max_left _ _) inside)).bind ?_
    exact (inductionHypothesis (Nat.le_trans (Nat.le_max_right _ _) inside)).bind_last rfl

end Optional

end Fields

/-! ### Values of a field -/

/-- A list of tags, each of which is found by its name. -/
class Tag.Named (α : Type) [Tag α] [DecidableEq α] : Prop where
  ofName?_name : ∀ tag : α, Tag.ofName? (Tag.name tag) = some tag

instance : Tag.Named ExprKind := ⟨fun tag => by cases tag <;> rfl⟩

instance : Tag.Named DatetimeField := ⟨fun tag => by cases tag <;> rfl⟩

instance : Tag.Named Operator := ⟨fun tag => by cases tag <;> rfl⟩

instance : Tag.Named StatementKind := ⟨fun tag => by cases tag <;> rfl⟩

instance : Tag.Named JoinKind := ⟨fun tag => by cases tag <;> rfl⟩

instance : Tag.Named TableKind := ⟨fun tag => by cases tag <;> rfl⟩

instance : Tag.Named SortOrder := ⟨fun tag => by cases tag <;> rfl⟩

instance : Tag.Named SetKind := ⟨fun tag => by cases tag <;> rfl⟩

theorem recovers_tag {α : Type} [Tag α] [DecidableEq α] [Tag.Named α] (tag : α) :
    Recovers (readTag (tagJson tag)) [] tag :=
  Tag.Named.ofName?_name tag

theorem recovers_boolean (value : Bool) : Recovers (readBoolean (.boolean value)) [] value := rfl

theorem recovers_text (value : String) : Recovers (Value.text? (.text value)) [] value := rfl

theorem intWithin?_ofInt {least greatest value : Int} (low : least ≤ value)
    (high : value ≤ greatest) : (Value.ofInt value).intWithin? least greatest = some value := by
  simp [Value.ofInt, Value.intWithin?, Json.Number.toInt?, Option.filter, low, high]

theorem recovers_int64 (value : Int64) :
    Recovers (readInt64 (.ofInt value.toInt)) [] value := by
  unfold readInt64
  rw [intWithin?_ofInt value.minValue_le_toInt value.toInt_le, Option.map_some, Int64.ofInt_toInt]
  exact recovers_some

theorem recovers_int32 (value : Int32) :
    Recovers (readInt32 (.ofInt value.toInt)) [] value := by
  unfold readInt32
  rw [intWithin?_ofInt value.minValue_le_toInt value.toInt_le, Option.map_some, Int32.ofInt_toInt]
  exact recovers_some

theorem recovers_uint64 (value : UInt64) :
    Recovers (readUInt64 (.ofInt value.toNat)) [] value := by
  have high : (value.toNat : Int) ≤ Int.ofNat (UInt64.size - 1) :=
    Int.ofNat_le.mpr (Nat.le_sub_one_of_lt value.toNat_lt_size)
  unfold readUInt64
  rw [intWithin?_ofInt (Int.natCast_nonneg _) high, Option.map_some, Int.toNat_natCast,
    UInt64.ofNat_toNat]
  exact recovers_some

/-- A number that is not finite is written as null, which is no number. -/
theorem recovers_double (value : Double) :
    Recovers (readDouble (Value.ofDouble value)) [value] value := by
  unfold Recovers Json.Value.ofDouble
  cases finite : value.isFinite <;> simp [readDouble, finite, Json.Number.toDouble]

/-! ### Nodes -/

theorem writesEach_texts : WritesEach Value.text (fun _ => []) (·.map Value.text) fun _ => [] :=
  ⟨⟨rfl, rfl⟩, fun _ _ => ⟨rfl, rfl⟩⟩

theorem writesEach_exprs : WritesEach Expr.toJson Expr.doubles exprsJson exprsDoubles :=
  ⟨⟨rfl, rfl⟩, fun _ _ => ⟨rfl, rfl⟩⟩

theorem writesEach_tableRefs :
    WritesEach TableRef.toJson TableRef.doubles tableRefsJson tableRefsDoubles :=
  ⟨⟨rfl, rfl⟩, fun _ _ => ⟨rfl, rfl⟩⟩

theorem writesEach_orders : WritesEach Order.toJson Order.doubles ordersJson ordersDoubles :=
  ⟨⟨rfl, rfl⟩, fun _ _ => ⟨rfl, rfl⟩⟩

theorem writesEach_withs : WritesEach With.toJson With.doubles withsJson withsDoubles :=
  ⟨⟨rfl, rfl⟩, fun _ _ => ⟨rfl, rfl⟩⟩

theorem writesEach_setOperations : WritesEach SetOperation.toJson SetOperation.doubles
    setOperationsJson setOperationsDoubles :=
  ⟨⟨rfl, rfl⟩, fun _ _ => ⟨rfl, rfl⟩⟩

theorem writesEach_statements : WritesEach Statement.toJson Statement.doubles
    (·.map Statement.toJson) (·.flatMap Statement.doubles) :=
  ⟨⟨rfl, rfl⟩, fun _ _ => ⟨rfl, List.flatMap_cons⟩⟩

/-! ### Objects -/

theorem optionalTextJson_eq (content : Option String) :
    optionalTextJson content = content.elim .null .text := by
  cases content <;> rfl

theorem optionalExprsJson_eq (content : Option (List Expr)) :
    optionalExprsJson content = content.elim .null fun exprs => .list (exprsJson exprs) := by
  cases content <;> rfl

theorem optionalOrdersJson_eq (content : Option (List Order)) :
    optionalOrdersJson content = content.elim .null fun orders => .list (ordersJson orders) := by
  cases content <;> rfl

theorem optionalLimitJson_eq (content : Option Limit) :
    optionalLimitJson content = content.elim .null Limit.toJson := by
  cases content <;> rfl

theorem Alias.toJson_eq (label : Alias) : label.toJson =
    .object [
      ("name", .text label.name),
      ("columns", label.columns.elim .null fun columns => .list (columns.map .text))] := by
  obtain ⟨name, columns⟩ := label
  cases columns <;> rfl

theorem Base.toJson_eq (base : Base) : base.toJson =
    .object [
      ("kind", tagJson base.kind),
      ("string_length", .ofInt base.stringLength.toNat),
      ("hints", base.hints.elim .null fun hints => .list (exprsJson hints))] := by
  obtain ⟨kind, stringLength, hints⟩ := base
  cases hints <;> rfl

theorem Select.toJson_eq (select : Select) : select.toJson =
    .object [
      ("base", select.base.toJson),
      ("from_table", select.fromTable.elim .null TableRef.toJson),
      ("select_distinct", .boolean select.selectDistinct),
      ("select_list", select.selectList.elim .null fun list => .list (exprsJson list)),
      ("where_clause", select.whereClause.elim .null Expr.toJson),
      ("group_by", select.groupBy.elim .null GroupBy.toJson),
      ("set_operations", select.setOperations.elim .null fun operations =>
        .list (setOperationsJson operations)),
      ("order", select.order.elim .null fun order => .list (ordersJson order)),
      ("with_descriptions", select.withDescriptions.elim .null fun withs =>
        .list (withsJson withs)),
      ("limit", select.limit.elim .null Limit.toJson)] := by
  obtain ⟨base, fromTable, selectDistinct, selectList, whereClause, groupBy, setOperations, order,
    withDescriptions, limit⟩ := select
  rw [← optionalExprsJson_eq, ← optionalOrdersJson_eq, ← optionalLimitJson_eq]
  cases fromTable <;> cases whereClause <;> cases groupBy <;> cases setOperations <;>
    cases withDescriptions <;> rfl

theorem Expr.toJson_eq (expr : Expr) : expr.toJson =
    .object [
      ("kind", tagJson expr.kind),
      ("expr", expr.expr.elim .null Expr.toJson),
      ("expr2", expr.expr2.elim .null Expr.toJson),
      ("expr_list", expr.exprList.elim .null fun list => .list (exprsJson list)),
      ("select", expr.select.elim .null Select.toJson),
      ("name", expr.name.elim .null .text),
      ("table", expr.table.elim .null .text),
      ("alias", expr.label.elim .null .text),
      ("fval", .ofDouble expr.fval),
      ("ival", .ofInt expr.ival.toInt),
      ("ival2", .ofInt expr.ival2.toInt),
      ("datetime_field", tagJson expr.datetimeField),
      ("is_bool_literal", .boolean expr.isBoolLiteral),
      ("op_type", tagJson expr.opType),
      ("distinct", .boolean expr.distinct)] := by
  obtain ⟨kind, expr, expr2, exprList, select, name, table, label, fval, ival, ival2,
    datetimeField, isBoolLiteral, opType, distinct⟩ := expr
  rw [← optionalExprsJson_eq, ← optionalTextJson_eq, ← optionalTextJson_eq, ← optionalTextJson_eq]
  cases expr <;> cases expr2 <;> cases select <;> rfl

theorem TableRef.toJson_eq (table : TableRef) : table.toJson =
    .object [
      ("kind", tagJson table.kind),
      ("schema", table.schema.elim .null .text),
      ("name", table.name.elim .null .text),
      ("alias", table.label.elim .null Alias.toJson),
      ("select", table.select.elim .null Select.toJson),
      ("list", table.list.elim .null fun tables => .list (tableRefsJson tables)),
      ("join", table.join.elim .null Join.toJson)] := by
  obtain ⟨kind, schema, name, label, select, list, join⟩ := table
  rw [← optionalTextJson_eq, ← optionalTextJson_eq]
  cases label <;> cases select <;> cases list <;> cases join <;> rfl

theorem Join.toJson_eq (join : Join) : join.toJson =
    .object [
      ("left", join.left.toJson),
      ("right", join.right.toJson),
      ("condition", join.condition.elim .null Expr.toJson),
      ("kind", tagJson join.kind)] := by
  obtain ⟨left, right, condition, kind⟩ := join
  cases condition <;> rfl

theorem GroupBy.toJson_eq (groupBy : GroupBy) : groupBy.toJson =
    .object [
      ("columns", groupBy.columns.elim .null fun columns => .list (exprsJson columns)),
      ("having", groupBy.having.elim .null Expr.toJson)] := by
  obtain ⟨columns, having⟩ := groupBy
  rw [← optionalExprsJson_eq]
  cases having <;> rfl

theorem Order.toJson_eq (order : Order) : order.toJson =
    .object [("kind", tagJson order.kind), ("expr", order.expr.toJson)] := by
  cases order
  rfl

theorem With.toJson_eq (withQuery : With) : withQuery.toJson =
    .object [("alias", .text withQuery.label), ("select", withQuery.select.toJson)] := by
  cases withQuery
  rfl

theorem Limit.toJson_eq (limit : Limit) : limit.toJson =
    .object [
      ("limit", limit.limit.elim .null Expr.toJson),
      ("offset", limit.offset.elim .null Expr.toJson)] := by
  obtain ⟨limit, offset⟩ := limit
  cases limit <;> cases offset <;> rfl

theorem SetOperation.toJson_eq (operation : SetOperation) : operation.toJson =
    .object [
      ("kind", tagJson operation.kind),
      ("is_all", .boolean operation.isAll),
      ("nested_select", operation.nestedSelect.toJson),
      ("result_order", operation.resultOrder.elim .null fun orders => .list (ordersJson orders)),
      ("result_limit", operation.resultLimit.elim .null Limit.toJson)] := by
  obtain ⟨kind, isAll, nestedSelect, resultOrder, resultLimit⟩ := operation
  rw [← optionalOrdersJson_eq, ← optionalLimitJson_eq]
  rfl

theorem Expr.toJson_ne_null (expr : Expr) : expr.toJson ≠ .null := by
  rw [toJson_eq]
  nofun

theorem Select.toJson_ne_null (select : Select) : select.toJson ≠ .null := by
  rw [toJson_eq]
  nofun

theorem TableRef.toJson_ne_null (table : TableRef) : table.toJson ≠ .null := by
  rw [toJson_eq]
  nofun

theorem Join.toJson_ne_null (join : Join) : join.toJson ≠ .null := by
  rw [toJson_eq]
  nofun

theorem GroupBy.toJson_ne_null (groupBy : GroupBy) : groupBy.toJson ≠ .null := by
  rw [toJson_eq]
  nofun

theorem Limit.toJson_ne_null (limit : Limit) : limit.toJson ≠ .null := by
  rw [toJson_eq]
  nofun

/-! ### Records -/

/-- Every record that is not too deep is read back from its object. -/
structure RecoversAll (fuel : Nat) : Prop where
  base : RecoversWithin fuel (Base.ofJson? fuel) Base.toJson Base.doubles
  select : RecoversWithin fuel (Select.ofJson? fuel) Select.toJson Select.doubles
  expr : RecoversWithin fuel (Expr.ofJson? fuel) Expr.toJson Expr.doubles
  tableRef : RecoversWithin fuel (TableRef.ofJson? fuel) TableRef.toJson TableRef.doubles
  join : RecoversWithin fuel (Join.ofJson? fuel) Join.toJson Join.doubles
  groupBy : RecoversWithin fuel (GroupBy.ofJson? fuel) GroupBy.toJson GroupBy.doubles
  order : RecoversWithin fuel (Order.ofJson? fuel) Order.toJson Order.doubles
  withQuery : RecoversWithin fuel (With.ofJson? fuel) With.toJson With.doubles
  limit : RecoversWithin fuel (Limit.ofJson? fuel) Limit.toJson Limit.doubles
  setOperation : RecoversWithin fuel (SetOperation.ofJson? fuel) SetOperation.toJson
    SetOperation.doubles

section Records

variable {fuel : Nat} {name : String} {record : Value}

/-- A text that may be absent. -/
theorem recovers_optionalText (content : Option String) (small : record.depth ≤ fuel + 1)
    (there : record.member? name = some (content.elim .null .text)) :
    Recovers (optional name Value.text? record) [] content := by
  have texts : RecoversWithin fuel Value.text? .text fun _ => [] := fun value _ =>
    recovers_text value
  exact texts.optional (fun _ => nofun) content small there (by cases content <;> rfl)

theorem recovers_alias : RecoversWithin fuel Alias.ofJson? Alias.toJson fun _ => [] := by
  intro label small
  rw [Alias.toJson_eq] at small ⊢
  have texts : RecoversWithin fuel Value.text? .text fun _ => [] := fun value _ =>
    recovers_text value
  have deep := Nat.le_succ_of_le small
  refine recovers_record.bind_plain ?_
  refine (recovers_required deep rfl fun _ => recovers_text label.name).bind_plain ?_
  refine ((writesEach_texts.recovers texts).optional (fun _ => nofun) label.columns deep rfl
    (by cases label.columns <;> rfl)).bind_plain ?_
  exact recovers_some

variable (all : RecoversAll fuel)

include all

/-- An expression that may be absent. -/
theorem recovers_optionalExpr (content : Option Expr) (small : record.depth ≤ fuel + 1)
    (there : record.member? name = some (content.elim .null Expr.toJson)) :
    Recovers (optional name (Expr.ofJson? fuel) record) (optionalExprDoubles content) content :=
  all.expr.optional Expr.toJson_ne_null content small there (by cases content <;> rfl)

/-- A list of expressions that may be absent. -/
theorem recovers_optionalExprs (content : Option (List Expr)) (small : record.depth ≤ fuel + 1)
    (there : record.member? name =
      some (content.elim .null fun exprs => .list (exprsJson exprs))) :
    Recovers (optional name (listOf (Expr.ofJson? fuel)) record) (optionalExprsDoubles content)
      content :=
  (writesEach_exprs.recovers all.expr).optional (fun _ => nofun) content small there
    (by cases content <;> rfl)

/-- A select that may be absent. -/
theorem recovers_optionalSelect (content : Option Select) (small : record.depth ≤ fuel + 1)
    (there : record.member? name = some (content.elim .null Select.toJson)) :
    Recovers (optional name (Select.ofJson? fuel) record) (optionalSelectDoubles content)
      content :=
  all.select.optional Select.toJson_ne_null content small there (by cases content <;> rfl)

/-- Sort keys that may be absent. -/
theorem recovers_optionalOrders (content : Option (List Order)) (small : record.depth ≤ fuel + 1)
    (there : record.member? name =
      some (content.elim .null fun orders => .list (ordersJson orders))) :
    Recovers (optional name (listOf (Order.ofJson? fuel)) record) (optionalOrdersDoubles content)
      content :=
  (writesEach_orders.recovers all.order).optional (fun _ => nofun) content small there
    (by cases content <;> rfl)

/-- A limit that may be absent. -/
theorem recovers_optionalLimit (content : Option Limit) (small : record.depth ≤ fuel + 1)
    (there : record.member? name = some (content.elim .null Limit.toJson)) :
    Recovers (optional name (Limit.ofJson? fuel) record) (optionalLimitDoubles content) content :=
  all.limit.optional Limit.toJson_ne_null content small there (by cases content <;> rfl)

theorem recovers_base :
    RecoversWithin (fuel + 1) (Base.ofJson? (fuel + 1)) Base.toJson Base.doubles := by
  rintro ⟨kind, stringLength, hints⟩ small
  rw [Base.toJson_eq] at small ⊢
  refine recovers_record.bind_plain ?_
  refine (recovers_required small rfl fun _ => recovers_tag kind).bind_plain ?_
  refine (recovers_required small rfl fun _ => recovers_uint64 stringLength).bind_plain ?_
  refine (recovers_optionalExprs all hints small rfl).bind_last ?_
  exact recovers_some

theorem recovers_select :
    RecoversWithin (fuel + 1) (Select.ofJson? (fuel + 1)) Select.toJson Select.doubles := by
  rintro ⟨base, fromTable, selectDistinct, selectList, whereClause, groupBy, setOperations, order,
    withDescriptions, limit⟩ small
  rw [Select.toJson_eq] at small ⊢
  refine recovers_record.bind_plain ?_
  refine Recovers.bind (recovers_required small rfl (all.base base)) ?_
  refine Recovers.bind (all.tableRef.optional TableRef.toJson_ne_null fromTable small rfl
    (by cases fromTable <;> rfl)) ?_
  refine (recovers_required small rfl fun _ => recovers_boolean selectDistinct).bind_plain ?_
  refine Recovers.bind (recovers_optionalExprs all selectList small rfl) ?_
  refine Recovers.bind (recovers_optionalExpr all whereClause small rfl) ?_
  refine Recovers.bind (all.groupBy.optional GroupBy.toJson_ne_null groupBy small rfl
    (by cases groupBy <;> rfl)) ?_
  refine Recovers.bind ((writesEach_setOperations.recovers all.setOperation).optional
    (fun _ => nofun) setOperations small rfl (by cases setOperations <;> rfl)) ?_
  refine Recovers.bind (recovers_optionalOrders all order small rfl) ?_
  refine Recovers.bind ((writesEach_withs.recovers all.withQuery).optional (fun _ => nofun)
    withDescriptions small rfl (by cases withDescriptions <;> rfl)) ?_
  refine Recovers.bind_last (recovers_optionalLimit all limit small rfl) ?_
  exact recovers_some

theorem recovers_expr :
    RecoversWithin (fuel + 1) (Expr.ofJson? (fuel + 1)) Expr.toJson Expr.doubles := by
  rintro ⟨kind, expr, expr2, exprList, select, name, table, label, fval, ival, ival2,
    datetimeField, isBoolLiteral, opType, distinct⟩ small
  rw [Expr.toJson_eq] at small ⊢
  refine recovers_record.bind_plain ?_
  refine (recovers_required small rfl fun _ => recovers_tag kind).bind_plain ?_
  refine Recovers.bind (recovers_optionalExpr all expr small rfl) ?_
  refine Recovers.bind (recovers_optionalExpr all expr2 small rfl) ?_
  refine Recovers.bind (recovers_optionalExprs all exprList small rfl) ?_
  refine Recovers.bind (recovers_optionalSelect all select small rfl) ?_
  refine (recovers_optionalText name small rfl).bind_plain ?_
  refine (recovers_optionalText table small rfl).bind_plain ?_
  refine (recovers_optionalText label small rfl).bind_plain ?_
  refine Recovers.bind_last (recovers_required small rfl fun _ => recovers_double fval) ?_
  refine (recovers_required small rfl fun _ => recovers_int64 ival).bind_plain ?_
  refine (recovers_required small rfl fun _ => recovers_int64 ival2).bind_plain ?_
  refine (recovers_required small rfl fun _ => recovers_tag datetimeField).bind_plain ?_
  refine (recovers_required small rfl fun _ => recovers_boolean isBoolLiteral).bind_plain ?_
  refine (recovers_required small rfl fun _ => recovers_tag opType).bind_plain ?_
  refine (recovers_required small rfl fun _ => recovers_boolean distinct).bind_plain ?_
  exact recovers_some

theorem recovers_tableRef :
    RecoversWithin (fuel + 1) (TableRef.ofJson? (fuel + 1)) TableRef.toJson TableRef.doubles := by
  rintro ⟨kind, schema, name, label, select, list, join⟩ small
  rw [TableRef.toJson_eq] at small ⊢
  refine recovers_record.bind_plain ?_
  refine (recovers_required small rfl fun _ => recovers_tag kind).bind_plain ?_
  refine (recovers_optionalText schema small rfl).bind_plain ?_
  refine (recovers_optionalText name small rfl).bind_plain ?_
  refine (recovers_alias.optional (fun _ => nofun) label small rfl
    (by cases label <;> rfl)).bind_plain ?_
  refine Recovers.bind (recovers_optionalSelect all select small rfl) ?_
  refine Recovers.bind ((writesEach_tableRefs.recovers all.tableRef).optional (fun _ => nofun) list
    small rfl (by cases list <;> rfl)) ?_
  refine Recovers.bind_last (all.join.optional Join.toJson_ne_null join small rfl
    (by cases join <;> rfl)) ?_
  exact recovers_some

theorem recovers_join :
    RecoversWithin (fuel + 1) (Join.ofJson? (fuel + 1)) Join.toJson Join.doubles := by
  rintro ⟨left, right, condition, kind⟩ small
  rw [Join.toJson_eq] at small ⊢
  refine recovers_record.bind_plain ?_
  refine Recovers.bind (recovers_required small rfl (all.tableRef left)) ?_
  refine Recovers.bind (recovers_required small rfl (all.tableRef right)) ?_
  refine Recovers.bind_last (recovers_optionalExpr all condition small rfl) ?_
  refine (recovers_required small rfl fun _ => recovers_tag kind).bind_plain ?_
  exact recovers_some

theorem recovers_groupBy :
    RecoversWithin (fuel + 1) (GroupBy.ofJson? (fuel + 1)) GroupBy.toJson GroupBy.doubles := by
  rintro ⟨columns, having⟩ small
  rw [GroupBy.toJson_eq] at small ⊢
  refine recovers_record.bind_plain ?_
  refine Recovers.bind (recovers_optionalExprs all columns small rfl) ?_
  refine Recovers.bind_last (recovers_optionalExpr all having small rfl) ?_
  exact recovers_some

theorem recovers_order :
    RecoversWithin (fuel + 1) (Order.ofJson? (fuel + 1)) Order.toJson Order.doubles := by
  rintro ⟨kind, expr⟩ small
  rw [Order.toJson_eq] at small ⊢
  refine recovers_record.bind_plain ?_
  refine (recovers_required small rfl fun _ => recovers_tag kind).bind_plain ?_
  refine Recovers.bind_last (recovers_required small rfl (all.expr expr)) ?_
  exact recovers_some

theorem recovers_with :
    RecoversWithin (fuel + 1) (With.ofJson? (fuel + 1)) With.toJson With.doubles := by
  rintro ⟨label, select⟩ small
  rw [With.toJson_eq] at small ⊢
  refine recovers_record.bind_plain ?_
  refine (recovers_required small rfl fun _ => recovers_text label).bind_plain ?_
  refine Recovers.bind_last (recovers_required small rfl (all.select select)) ?_
  exact recovers_some

theorem recovers_limit :
    RecoversWithin (fuel + 1) (Limit.ofJson? (fuel + 1)) Limit.toJson Limit.doubles := by
  rintro ⟨limit, offset⟩ small
  rw [Limit.toJson_eq] at small ⊢
  refine recovers_record.bind_plain ?_
  refine Recovers.bind (recovers_optionalExpr all limit small rfl) ?_
  refine Recovers.bind_last (recovers_optionalExpr all offset small rfl) ?_
  exact recovers_some

theorem recovers_setOperation :
    RecoversWithin (fuel + 1) (SetOperation.ofJson? (fuel + 1)) SetOperation.toJson
      SetOperation.doubles := by
  rintro ⟨kind, isAll, nestedSelect, resultOrder, resultLimit⟩ small
  rw [SetOperation.toJson_eq] at small ⊢
  refine recovers_record.bind_plain ?_
  refine (recovers_required small rfl fun _ => recovers_tag kind).bind_plain ?_
  refine (recovers_required small rfl fun _ => recovers_boolean isAll).bind_plain ?_
  refine Recovers.bind (recovers_required small rfl (all.select nestedSelect)) ?_
  refine Recovers.bind (recovers_optionalOrders all resultOrder small rfl) ?_
  refine Recovers.bind_last (recovers_optionalLimit all resultLimit small rfl) ?_
  exact recovers_some

end Records

/-- Every record is an object, and no object fits into no fuel at all. -/
theorem recoversAll_zero : RecoversAll 0 where
  base _ small := by rw [Base.toJson_eq] at small; cases small
  select _ small := by rw [Select.toJson_eq] at small; cases small
  expr _ small := by rw [Expr.toJson_eq] at small; cases small
  tableRef _ small := by rw [TableRef.toJson_eq] at small; cases small
  join _ small := by rw [Join.toJson_eq] at small; cases small
  groupBy _ small := by rw [GroupBy.toJson_eq] at small; cases small
  order _ small := by rw [Order.toJson_eq] at small; cases small
  withQuery _ small := by rw [With.toJson_eq] at small; cases small
  limit _ small := by rw [Limit.toJson_eq] at small; cases small
  setOperation _ small := by rw [SetOperation.toJson_eq] at small; cases small

/-- The induction is on the fuel, of which every record that lies in another one needs one less. -/
theorem recoversAll (fuel : Nat) : RecoversAll fuel := by
  induction fuel with
  | zero => exact recoversAll_zero
  | succ fuel all =>
    exact {
      base := recovers_base all
      select := recovers_select all
      expr := recovers_expr all
      tableRef := recovers_tableRef all
      join := recovers_join all
      groupBy := recovers_groupBy all
      order := recovers_order all
      withQuery := recovers_with all
      limit := recovers_limit all
      setOperation := recovers_setOperation all }

/-! ### Statements and results -/

theorem recovers_onlyMember (name : String) (body : Value) :
    Recovers (onlyMember (.object [(name, body)])) [] (name, body) := by
  unfold Recovers onlyMember
  simp [Option.filter]

/-- The form of a statement lies around its body. -/
theorem depth_body {fuel : Nat} {name : String} {body : Value}
    (small : (Value.object [(name, body)]).depth ≤ fuel) : body.depth ≤ fuel :=
  Nat.le_trans (Nat.le_max_left body.depth 0) (Nat.le_of_succ_le small)

theorem recovers_onlyBase {fuel : Nat} (base : Base)
    (small : (Value.object [("base", base.toJson)]).depth ≤ fuel) :
    Recovers (onlyBase fuel (.object [("base", base.toJson)])) base.doubles base := by
  refine recovers_record.bind_plain ?_
  exact recovers_required (Nat.le_succ_of_le small) rfl ((recoversAll fuel).base base)

theorem recovers_statement (fuel : Nat) :
    RecoversWithin fuel (Statement.ofJson? fuel) Statement.toJson Statement.doubles := by
  intro statement small
  cases statement with
  | select body =>
    refine (recovers_onlyMember _ _).bind_plain ?_
    exact ((recoversAll fuel).select body (depth_body small)).bind_last recovers_some
  | insert base =>
    refine (recovers_onlyMember _ _).bind_plain ?_
    exact (recovers_onlyBase base (depth_body small)).bind_last recovers_some
  | update base =>
    refine (recovers_onlyMember _ _).bind_plain ?_
    exact (recovers_onlyBase base (depth_body small)).bind_last recovers_some
  | delete base =>
    refine (recovers_onlyMember _ _).bind_plain ?_
    exact (recovers_onlyBase base (depth_body small)).bind_last recovers_some
  | other base =>
    refine (recovers_onlyMember _ _).bind_plain ?_
    exact ((recoversAll fuel).base base (depth_body small)).bind_last recovers_some

theorem recovers_syntaxError (error : SyntaxError) :
    Recovers (SyntaxError.ofJson? (.object [
      ("message", .text error.message),
      ("line", .ofInt error.line.toInt),
      ("column", .ofInt error.column.toInt)])) [] error := by
  refine recovers_record.bind_plain ?_
  refine (recovers_required (Nat.le_succ _) rfl fun _ => recovers_text error.message).bind_plain ?_
  refine (recovers_required (Nat.le_succ _) rfl fun _ => recovers_int32 error.line).bind_plain ?_
  refine (recovers_required (Nat.le_succ _) rfl fun _ =>
    recovers_int32 error.column).bind_plain ?_
  exact recovers_some

/-- A result is read back from its object, unless a floating-point number in it is not finite. -/
theorem ParseResult.recovers_toJson (result : ParseResult) :
    Recovers (ofJson? result.toJson) result.doubles result := by
  cases result with
  | valid statements =>
    refine (recovers_onlyMember _ _).bind_plain ?_
    exact (writesEach_statements.recovers (recovers_statement _) statements
      (depth_body (Nat.le_refl _))).bind_last recovers_some
  | invalid error =>
    refine (recovers_onlyMember _ _).bind_plain ?_
    exact (recovers_syntaxError error).bind_last recovers_some

end SqlImage.Tree
