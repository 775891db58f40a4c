/-
This file turns statements into trees. Of all statements but queries a tree keeps
the kind only, and some kinds have no tree at all.
-/

import SqlImage.Lowering.Query

namespace SqlImage.Sql

open Lowering

/-- The kind of a statement that is no query, unless no tree can hold it. -/
def Statement.kind : Statement → Except Unsupported Tree.StatementKind
  | .query _ => return .select
  | .insert => return .insert
  | .update => return .update
  | .delete => return .delete
  | .create => return .create
  | .drop => return .drop
  | .prepare => return .prepare
  | .execute => return .execute
  | .copyTo => return .exportData
  | .copyFrom => return .importData
  | .rename => return .rename
  | .alter => return .alter
  | .showInfo => return .showInfo
  | .transaction => return .transaction
  | .other word => throw (.statement word)

/-- The tree of a statement, its length unknown. Placeholders are numbered from zero in each
statement. -/
def Statement.lower (statement : Statement) : Except Unsupported Tree.Statement :=
  match statement with
  | .query asked => return .select (← asked.lower.run' 0)
  | statement => return .ofBase (.ofKind (← statement.kind))

end SqlImage.Sql
