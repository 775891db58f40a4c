/-
This file prints the syntax of SQL: keywords in upper case, one space between
parts, names and strings with their quotes. Messages show the construct that they
are about in this form, which need not be the way it was written.
-/

import SqlImage.Sql.Syntax.Basic

namespace SqlImage.Sql

/-! ### Quotes -/

/-- A content as it stands between quotes. A quote is doubled, a doubled one is kept as it is, and
so is a quote behind a backslash: the content may be escaped already, and nobody knows. -/
def quoteEscaped (quote : Char) : (previous : Char) → List Char → List Char
  | _, [] => []
  | previous, first :: rest =>
    if first = quote then
      if previous = '\\' then first :: quoteEscaped quote previous rest
      else
        match rest with
        | [] => [quote, quote]
        | second :: more =>
          if second = quote then quote :: quote :: quoteEscaped quote quote more
          else quote :: quote :: second :: quoteEscaped quote second more
    else first :: quoteEscaped quote first rest

/-- A content between quotes. -/
def enquote (quote : Char) (content : String) : String :=
  quote.toString ++ String.ofList (quoteEscaped quote '\x00' content.toList) ++ quote.toString

/-- A character of a string with escapes. -/
def backslashEscaped (character : Char) : List Char :=
  match character with
  | '\'' => ['\\', '\'']
  | '\\' => ['\\', '\\']
  | '\n' => ['\\', 'n']
  | '\t' => ['\\', 't']
  | '\r' => ['\\', 'r']
  | other => [other]

/-! ### Names and values -/

namespace Ident

/-- A name, in its quotes if it has them. -/
def print (ident : Ident) : String :=
  match ident.quote with
  | none => ident.value
  | some quote => enquote quote ident.value

end Ident

/-- Texts with a separator between them. -/
def separated (separator : String) (texts : List String) : String :=
  separator.intercalate texts

/-- Names with dots between them. -/
def printName (name : List Ident) : String := separated "." (name.map Ident.print)

/-- Names with commas between them. -/
def printIdents (names : List Ident) : String := separated ", " (names.map Ident.print)

namespace TableAlias

/-- The name of a table, with the names of its columns if there are any. -/
def print (label : TableAlias) : String :=
  match label.columns with
  | [] => label.name.print
  | columns => label.name.print ++ " (" ++ printIdents columns ++ ")"

/-- The name of a table as it stands behind the table, if there is one. -/
def printBehind : Option TableAlias → String
  | none => ""
  | some label => " AS " ++ label.print

end TableAlias

namespace Literal

/-- A value written out. -/
def print : Literal → String
  | .number digits long => if long then digits ++ "L" else digits
  | .string .plain content => enquote '\'' content
  | .string .escaped content =>
    "E'" ++ String.ofList (content.toList.flatMap backslashEscaped) ++ "'"
  | .string style content => style.write content
  | .dollarString tag content => dollarText tag content
  | .boolean value => if value then "true" else "false"
  | .null => "NULL"
  | .placeholder name => name

end Literal

namespace UnaryOperator

/-- An operator with one operand. -/
def print : UnaryOperator → String
  | .not => "NOT"
  | .minus => "-"
  | .plus => "+"
  | .factorial => "!"

end UnaryOperator

namespace BinaryOperator

/-- An operator with two operands. -/
def print : BinaryOperator → String
  | .plus => "+"
  | .minus => "-"
  | .multiply => "*"
  | .divide => "/"
  | .modulo => "%"
  | .caret => "^"
  | .concat => "||"
  | .equal => "="
  | .notEqual => "<>"
  | .less => "<"
  | .lessEqual => "<="
  | .greater => ">"
  | .greaterEqual => ">="
  | .and => "AND"
  | .or => "OR"
  | .other written => written

end BinaryOperator

namespace IntervalUnit

/-- How the value of an interval is counted, as it stands behind the value. -/
def print (unit : IntervalUnit) : String :=
  match unit.leading, unit.leadingPrecision, unit.fractionalPrecision with
  | some .SECOND, some leading, some fractional =>
    " SECOND (" ++ toString leading ++ ", " ++ toString fractional ++ ")"
  | leading, precision, fractional =>
    (match leading with
      | none => ""
      | some field => " " ++ field.spelling) ++
    (match precision with
      | none => ""
      | some digits => " (" ++ toString digits ++ ")") ++
    (match unit.last with
      | none => ""
      | some field => " TO " ++ field.spelling) ++
    (match fractional with
      | none => ""
      | some digits => " (" ++ toString digits ++ ")")

end IntervalUnit

namespace NullTreatment

/-- What a function does with null values. -/
def print : NullTreatment → String
  | .ignoreNulls => "IGNORE NULLS"
  | .respectNulls => "RESPECT NULLS"

end NullTreatment

namespace SetQuantifier

/-- A quantifier of a set operation. -/
def print : SetQuantifier → String
  | .unmarked => ""
  | .all => "ALL"
  | .distinct => "DISTINCT"
  | .byName => "BY NAME"
  | .allByName => "ALL BY NAME"
  | .distinctByName => "DISTINCT BY NAME"

/-- A quantifier as it stands behind the operation. -/
def printBehind : SetQuantifier → String
  | .unmarked => ""
  | quantifier => " " ++ quantifier.print

end SetQuantifier

/-- The word of a set operation. -/
def printSetKind : Tree.SetKind → String
  | .union => "UNION"
  | .intersect => "INTERSECT"
  | .except => "EXCEPT"

namespace JoinSide

/-- The words of a join. -/
def print : JoinSide → String
  | .inner => "JOIN"
  | .left => "LEFT JOIN"
  | .right => "RIGHT JOIN"
  | .full => "FULL JOIN"
  | .leftSemi => "LEFT SEMI JOIN"
  | .rightSemi => "RIGHT SEMI JOIN"
  | .leftAnti => "LEFT ANTI JOIN"
  | .rightAnti => "RIGHT ANTI JOIN"

end JoinSide

namespace RowsWord

/-- The word behind a number of rows. -/
def print : RowsWord → String
  | .unmarked => ""
  | .row => " ROW"
  | .rows => " ROWS"

end RowsWord

/-- The word before a negated test. -/
def printNot (negated : Bool) : String := if negated then "NOT " else ""

/-! ### Expressions and queries -/

mutual

/-- A part of a phrase. -/
def Piece.print : Piece → String
  | .text written => written
  | .expr expr => expr.print
  | .query query => query.print
  | .source source => source.print
  | .argument argument => argument.print
  | .item item => item.print
  | .order order => order.print

/-- The parts of a phrase, one after the other. -/
def printPhrase : List Piece → String
  | [] => ""
  | piece :: rest => piece.print ++ printPhrase rest

/-- An expression. -/
def Expr.print : Expr → String
  | .column path => printName path
  | .star => "*"
  | .qualifiedStar name => printName name ++ ".*"
  | .literal value => value.print
  | .nested inner => "(" ++ inner.print ++ ")"
  | .unary .factorial operand => operand.print ++ UnaryOperator.factorial.print
  | .unary .not operand => UnaryOperator.not.print ++ " " ++ operand.print
  | .unary operator operand => operator.print ++ operand.print
  | .binary operator left right => left.print ++ " " ++ operator.print ++ " " ++ right.print
  | .isNull negated operand => operand.print ++ " IS " ++ printNot negated ++ "NULL"
  | .like caseless negated operand pattern escape =>
    operand.print ++ " " ++ printNot negated ++ (if caseless then "ILIKE " else "LIKE ") ++
      pattern.print ++
      match escape with
      | none => ""
      | some character => " ESCAPE '" ++ character.toString ++ "'"
  | .between negated operand low high =>
    operand.print ++ " " ++ printNot negated ++ "BETWEEN " ++ low.print ++ " AND " ++ high.print
  | .inList negated operand list =>
    operand.print ++ " " ++ printNot negated ++ "IN (" ++ separated ", " (printExprs list) ++ ")"
  | .inQuery negated operand query =>
    operand.print ++ " " ++ printNot negated ++ "IN (" ++ query.print ++ ")"
  | .hasRow negated query => printNot negated ++ "EXISTS (" ++ query.print ++ ")"
  | .subquery query => "(" ++ query.print ++ ")"
  | .call call => call.print
  | .case operand branches otherwise =>
    "CASE" ++
    (match operand with
      | none => ""
      | some operand => " " ++ operand.print) ++
    printBranches branches ++
    (match otherwise with
      | none => ""
      | some otherwise => " ELSE " ++ otherwise.print) ++
    " END"
  | .extract field operand => "EXTRACT(" ++ field.spelling ++ " FROM " ++ operand.print ++ ")"
  | .interval value unit => "INTERVAL " ++ value.print ++ unit.print
  | .array named elements =>
    (if named then "ARRAY[" else "[") ++ separated ", " (printExprs elements) ++ "]"
  | .index operand subscripts => operand.print ++ printSubscripts subscripts
  | .phrase pieces => printPhrase pieces

/-- Each of some expressions. -/
def printExprs : List Expr → List String
  | [] => []
  | expr :: rest => expr.print :: printExprs rest

/-- Subscripts, each of them in brackets. -/
def printSubscripts : List Expr → String
  | [] => ""
  | expr :: rest => "[" ++ expr.print ++ "]" ++ printSubscripts rest

/-- One condition of a choice and its result. -/
def Branch.print : Branch → String
  | ⟨condition, result⟩ => " WHEN " ++ condition.print ++ " THEN " ++ result.print

/-- The conditions of a choice. -/
def printBranches : List Branch → String
  | [] => ""
  | branch :: rest => branch.print ++ printBranches rest

/-- A function and what it is applied to. -/
def Call.print : Call → String
  | ⟨name, distinct, arguments, order, filter, nullTreatment, window, bare⟩ =>
    if bare then printName name
    else
      printName name ++ "(" ++ (if distinct then "DISTINCT " else "") ++
      separated ", " (printArguments arguments) ++
      (match order with
        | [] => ""
        | first :: rest =>
          " ORDER BY " ++ separated ", " (first.print :: printOrderItems rest)) ++
      ")" ++
      (match filter with
        | none => ""
        | some condition => " FILTER (WHERE " ++ condition.print ++ ")") ++
      (match nullTreatment with
        | none => ""
        | some treatment => " " ++ treatment.print) ++
      printPhrase window

/-- One argument of a function. -/
def Argument.print : Argument → String
  | ⟨name, value⟩ =>
    (match name with
      | none => ""
      | some name => name.print ++ " => ") ++
    value.print

/-- Each of some arguments. -/
def printArguments : List Argument → List String
  | [] => []
  | argument :: rest => argument.print :: printArguments rest

/-- What is given to a function. -/
def ArgumentValue.print : ArgumentValue → String
  | .expr expr => expr.print
  | .star => "*"
  | .qualifiedStar name => printName name ++ ".*"

/-- One key of a sort. -/
def OrderItem.print : OrderItem → String
  | ⟨expr, ascending, nullsFirst⟩ =>
    expr.print ++
    (match ascending with
      | none => ""
      | some ascending => if ascending then " ASC" else " DESC") ++
    (match nullsFirst with
      | none => ""
      | some first => if first then " NULLS FIRST" else " NULLS LAST")

/-- Each of some keys of a sort. -/
def printOrderItems : List OrderItem → List String
  | [] => []
  | order :: rest => order.print :: printOrderItems rest

/-- A query. -/
def Query.print : Query → String
  | ⟨withClause, body, order, limit, limitBy, offset, offsetRows, fetch, locks⟩ =>
    (match withClause with
      | none => ""
      | some withClause => withClause.print ++ " ") ++
    body.print ++
    (match order with
      | [] => ""
      | first :: rest => " ORDER BY " ++ separated ", " (first.print :: printOrderItems rest)) ++
    (match limit with
      | none => ""
      | some limit => " LIMIT " ++ limit.print) ++
    (match offset with
      | none => ""
      | some offset => " OFFSET " ++ offset.print ++ offsetRows.print) ++
    (match limitBy with
      | [] => ""
      | first :: rest => " BY " ++ separated ", " (first.print :: printExprs rest)) ++
    printPhrase fetch ++ printPhrase locks

/-- The named queries in front of a query. -/
def With.print : With → String
  | ⟨recursive, tables⟩ =>
    "WITH " ++ (if recursive then "RECURSIVE " else "") ++
    separated ", " (printNamedQueries tables)

/-- A query with a name. -/
def NamedQuery.print : NamedQuery → String
  | ⟨label, query, source⟩ =>
    label.print ++ " AS (" ++ query.print ++ ")" ++
    match source with
    | none => ""
    | some source => " FROM " ++ source.print

/-- Each of some named queries. -/
def printNamedQueries : List NamedQuery → List String
  | [] => []
  | table :: rest => table.print :: printNamedQueries rest

/-- The body of a query. -/
def Body.print : Body → String
  | .select select => select.print
  | .query query => "(" ++ query.print ++ ")"
  | .operation operator quantifier left right =>
    left.print ++ " " ++ printSetKind operator ++ quantifier.printBehind ++ " " ++ right.print
  | .values pieces => printPhrase pieces
  | .phrase pieces => printPhrase pieces

/-- A select with its clauses. -/
def Select.print : Select → String
  | ⟨distinct, top, items, into, tables, lateralViews, selection, grouping, distribution, having,
      windows, qualify⟩ =>
    "SELECT" ++ distinct.print ++ printPhrase top ++ " " ++
    separated ", " (printSelectItems items) ++ printPhrase into ++
    (match tables with
      | [] => ""
      | first :: rest => " FROM " ++ separated ", " (first.print :: printFromItems rest)) ++
    printPhrase lateralViews ++
    (match selection with
      | none => ""
      | some condition => " WHERE " ++ condition.print) ++
    grouping.print ++ printPhrase distribution ++
    (match having with
      | none => ""
      | some condition => " HAVING " ++ condition.print) ++
    printPhrase windows ++ printPhrase qualify

/-- Whether equal rows are left out, as it stands behind the first word of a select. -/
def Distinct.print : Distinct → String
  | .no => ""
  | .rows => " DISTINCT"
  | .on keys => " DISTINCT ON (" ++ separated ", " (printExprs keys) ++ ")"

/-- What the rows of a select are grouped by. -/
def Grouping.print : Grouping → String
  | .all => " GROUP BY ALL"
  | .keys [] => ""
  | .keys (first :: rest) => " GROUP BY " ++ separated ", " (first.print :: printExprs rest)

/-- One item of a select list. -/
def SelectItem.print : SelectItem → String
  | .expr expr label =>
    expr.print ++
    match label with
    | none => ""
    | some label => " AS " ++ label.print
  | .star options => "*" ++ printPhrase options
  | .qualifiedStar name options => printName name ++ ".*" ++ printPhrase options

/-- Each of some items of a select list. -/
def printSelectItems : List SelectItem → List String
  | [] => []
  | item :: rest => item.print :: printSelectItems rest

/-- A table and what is joined to it. -/
def FromItem.print : FromItem → String
  | ⟨factor, joins⟩ => factor.print ++ printJoins joins

/-- Each of some tables with their joins. -/
def printFromItems : List FromItem → List String
  | [] => []
  | source :: rest => source.print :: printFromItems rest

/-- One joined table. -/
def Join.print : Join → String
  | ⟨.constrained side (.on condition), factor⟩ =>
    " " ++ side.print ++ " " ++ factor.print ++ " ON " ++ condition.print
  | ⟨.constrained side (.using columns), factor⟩ =>
    " " ++ side.print ++ " " ++ factor.print ++ " USING(" ++ printIdents columns ++ ")"
  | ⟨.constrained side .natural, factor⟩ => " NATURAL " ++ side.print ++ " " ++ factor.print
  | ⟨.constrained side .unmarked, factor⟩ => " " ++ side.print ++ " " ++ factor.print
  | ⟨.cross, factor⟩ => " CROSS JOIN " ++ factor.print
  | ⟨.crossApply, factor⟩ => " CROSS APPLY " ++ factor.print
  | ⟨.outerApply, factor⟩ => " OUTER APPLY " ++ factor.print

/-- Joined tables, one after the other. -/
def printJoins : List Join → String
  | [] => ""
  | join :: rest => join.print ++ printJoins rest

/-- Anything that stands for a table. -/
def TableFactor.print : TableFactor → String
  | .table name partitions arguments label hints =>
    printName name ++
    (match partitions with
      | [] => ""
      | partitions => "PARTITION (" ++ printIdents partitions ++ ")") ++
    (match arguments with
      | none => ""
      | some arguments => "(" ++ separated ", " (printArguments arguments) ++ ")") ++
    TableAlias.printBehind label ++
    (match hints with
      | [] => ""
      | first :: rest => " WITH (" ++ separated ", " (first.print :: printExprs rest) ++ ")")
  | .derived lateral query label =>
    (if lateral then "LATERAL (" else "(") ++ query.print ++ ")" ++ TableAlias.printBehind label
  | .nested inner label => "(" ++ inner.print ++ ")" ++ TableAlias.printBehind label
  | .phrase before label after =>
    printPhrase before ++ TableAlias.printBehind label ++ printPhrase after

end

end SqlImage.Sql
