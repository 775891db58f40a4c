/-
This file holds the reasons for which a statement that is good SQL has no tree.
Each names the construct that a tree cannot hold, and shows it where that is more
than a keyword.
-/

namespace SqlImage

/-- What a tree cannot hold. -/
inductive Unsupported where
  | fetch
  | recursiveWith
  | withColumns
  | nestedWith
  | nestedOrder
  | nestedLimit
  | setQuantifier (written : String)
  | values
  | body (written : String)
  | top
  | into
  | lateralView
  | distribution
  | namedWindow
  | qualify
  | distinctOn
  | groupByAll
  | nullsOrder
  | joinOperator
  | joinUsing
  | tableName (written : String)
  | lateral
  | tableReference (written : String)
  | emptyName
  | operator (written : String)
  | likeEscape
  | caselessLikeEscape
  | intervalQualifier
  | intervalWithoutUnit
  | timeField (written : String)
  | expression (written : String)
  | literal (written : String)
  | number (written : String)
  | subscriptNumber (written : String)
  | subscript (written : String)
  | window
  | namedArgument
  | statement (word : String)
deriving DecidableEq, Repr

namespace Unsupported

/-- A construct as it is shown in a message. -/
def shown (written : String) : String := "`" ++ written ++ "`"

/-- The reason in words. -/
def message : Unsupported → String
  | .fetch => "FETCH"
  | .recursiveWith => "WITH RECURSIVE"
  | .withColumns => "column list on a common table expression"
  | .nestedWith => "nested WITH"
  | .nestedOrder => "nested ORDER BY"
  | .nestedLimit => "nested LIMIT"
  | .setQuantifier written => "set quantifier " ++ written
  | .values => "VALUES"
  | .body written => "query body " ++ shown written
  | .top => "TOP"
  | .into => "SELECT INTO"
  | .lateralView => "LATERAL VIEW"
  | .distribution => "CLUSTER BY, DISTRIBUTE BY or SORT BY"
  | .namedWindow => "WINDOW"
  | .qualify => "QUALIFY"
  | .distinctOn => "DISTINCT ON"
  | .groupByAll => "GROUP BY ALL"
  | .nullsOrder => "NULLS FIRST / NULLS LAST"
  | .joinOperator => "join operator"
  | .joinUsing => "JOIN ... USING"
  | .tableName written => "table name " ++ shown written
  | .lateral => "LATERAL"
  | .tableReference written => "table reference " ++ shown written
  | .emptyName => "empty identifier"
  | .operator written => "operator " ++ written
  | .likeEscape => "LIKE ... ESCAPE"
  | .caselessLikeEscape => "ILIKE ... ESCAPE"
  | .intervalQualifier => "INTERVAL qualifier"
  | .intervalWithoutUnit => "INTERVAL without a unit"
  | .timeField written => "datetime field " ++ written
  | .expression written => "expression " ++ shown written
  | .literal written => "literal " ++ written
  | .number written => "numeric literal " ++ written
  | .subscriptNumber written => "array subscript " ++ written
  | .subscript written => "array subscript " ++ shown written
  | .window => "window function"
  | .namedArgument => "named function argument"
  | .statement word => word ++ " statement"

end Unsupported

end SqlImage
