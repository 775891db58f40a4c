/-
This file says what the records of an image look like. There is a kind of record
for every kind of node, and each kind has a fixed list of fields with a name and a
type. A sequence is one field: where its elements are and how many there are.
-/

namespace SqlImage.Image

/-- The kinds of records. -/
inductive Kind where
  | result
  | statement
  | select
  | expr
  | table
  | label
  | join
  | groupBy
  | order
  | withQuery
  | limit
  | setOperation
deriving DecidableEq, Repr

/-- What a pointer of an array leads to: a text or a record of one kind. -/
inductive Target where
  | text
  | node (kind : Kind)
deriving DecidableEq, Repr

/-- The type of a field. -/
inductive FieldType where
  /-- A number that stands for a tag. -/
  | tag
  /-- A truth value. -/
  | flag
  /-- A line or a column. -/
  | place
  /-- A signed integer. -/
  | int
  /-- A length. -/
  | size
  /-- A floating-point number. -/
  | double
  /-- A pointer to a text or to a record. -/
  | pointer (target : Target)
  /-- An array of pointers and the number of its elements. -/
  | sequence (target : Target)
deriving DecidableEq, Repr

/-- A field of a record. -/
structure Field where
  name : String
  type : FieldType
deriving DecidableEq, Repr

namespace Kind

/-- The fields that every statement begins with. -/
def statementFields : List Field := [
  ⟨"type", .tag⟩,
  ⟨"stringLength", .size⟩,
  ⟨"hints", .sequence (.node .expr)⟩]

/-- The fields of a record of a kind, in order. A select begins with the fields of a
statement. -/
def fields : Kind → List Field
  | .result => [
      ⟨"isValid", .flag⟩,
      ⟨"errorMsg", .pointer .text⟩,
      ⟨"errorLine", .place⟩,
      ⟨"errorColumn", .place⟩,
      ⟨"statements", .sequence (.node .statement)⟩]
  | .statement => statementFields
  | .select => statementFields ++ [
      ⟨"fromTable", .pointer (.node .table)⟩,
      ⟨"selectDistinct", .flag⟩,
      ⟨"selectList", .sequence (.node .expr)⟩,
      ⟨"whereClause", .pointer (.node .expr)⟩,
      ⟨"groupBy", .pointer (.node .groupBy)⟩,
      ⟨"setOperations", .sequence (.node .setOperation)⟩,
      ⟨"order", .sequence (.node .order)⟩,
      ⟨"withDescriptions", .sequence (.node .withQuery)⟩,
      ⟨"limit", .pointer (.node .limit)⟩]
  | .expr => [
      ⟨"type", .tag⟩,
      ⟨"expr", .pointer (.node .expr)⟩,
      ⟨"expr2", .pointer (.node .expr)⟩,
      ⟨"exprList", .sequence (.node .expr)⟩,
      ⟨"select", .pointer (.node .select)⟩,
      ⟨"name", .pointer .text⟩,
      ⟨"table", .pointer .text⟩,
      ⟨"alias", .pointer .text⟩,
      ⟨"fval", .double⟩,
      ⟨"ival", .int⟩,
      ⟨"ival2", .int⟩,
      ⟨"datetimeField", .tag⟩,
      ⟨"isBoolLiteral", .flag⟩,
      ⟨"opType", .tag⟩,
      ⟨"distinct", .flag⟩]
  | .table => [
      ⟨"type", .tag⟩,
      ⟨"schema", .pointer .text⟩,
      ⟨"name", .pointer .text⟩,
      ⟨"alias", .pointer (.node .label)⟩,
      ⟨"select", .pointer (.node .select)⟩,
      ⟨"list", .sequence (.node .table)⟩,
      ⟨"join", .pointer (.node .join)⟩]
  | .label => [
      ⟨"name", .pointer .text⟩,
      ⟨"columns", .sequence .text⟩]
  | .join => [
      ⟨"left", .pointer (.node .table)⟩,
      ⟨"right", .pointer (.node .table)⟩,
      ⟨"condition", .pointer (.node .expr)⟩,
      ⟨"type", .tag⟩]
  | .groupBy => [
      ⟨"columns", .sequence (.node .expr)⟩,
      ⟨"having", .pointer (.node .expr)⟩]
  | .order => [
      ⟨"type", .tag⟩,
      ⟨"expr", .pointer (.node .expr)⟩]
  | .withQuery => [
      ⟨"alias", .pointer .text⟩,
      ⟨"select", .pointer (.node .select)⟩]
  | .limit => [
      ⟨"limit", .pointer (.node .expr)⟩,
      ⟨"offset", .pointer (.node .expr)⟩]
  | .setOperation => [
      ⟨"setType", .tag⟩,
      ⟨"isAll", .flag⟩,
      ⟨"nestedSelectStatement", .pointer (.node .select)⟩,
      ⟨"resultOrder", .sequence (.node .order)⟩,
      ⟨"resultLimit", .pointer (.node .limit)⟩]

/-- The position of a field and the field itself. -/
def field? (kind : Kind) (name : String) : Option (Nat × Field) :=
  match kind.fields.findIdx? (·.name = name) with
  | none => none
  | some position => (kind.fields[position]?).map fun field => (position, field)

end Kind

end SqlImage.Image
