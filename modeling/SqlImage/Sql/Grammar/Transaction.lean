/-
This file reads the statements that begin and end transactions.
-/

import SqlImage.Sql.Grammar.Name

namespace SqlImage.Sql.Grammar

open SqlImage.Sql.Parser

/-- How far a transaction is kept apart from others, behind the words that say so. -/
def isolationLevel : Parser Unit := do
  if ← keywords [.READ, .UNCOMMITTED] then return ()
  if ← keywords [.READ, .COMMITTED] then return ()
  if ← keywords [.REPEATABLE, .READ] then return ()
  if ← keyword .SERIALIZABLE then return ()
  expected "isolation level"

/-- One mode of a transaction, and whether there was one. -/
def transactionMode : Parser Bool := do
  if ← keywords [.ISOLATION, .LEVEL] then
    isolationLevel
    return true
  if ← keywords [.READ, .ONLY] then return true
  keywords [.READ, .WRITE]

/-- The modes of a transaction. Commas between them may be missing, but a comma demands a mode
behind it. -/
def transactionModes : Parser Unit := do
  let _ ← loop false fun required => do
    if ← transactionMode then return some (← symbol .comma)
    if required then expected "transaction mode"
    return none

/-- A transaction that begins, behind the first word. -/
def start : Parser Unit := do
  expectKeyword .TRANSACTION
  transactionModes

/-- A transaction that begins by the short form, behind the first word. -/
def begin : Parser Unit := do
  let _ ← oneOf [.DEFERRED, .IMMEDIATE, .EXCLUSIVE]
  let _ ← oneOf [.TRANSACTION, .WORK]
  transactionModes

/-- Whether the next transaction begins when one ends. -/
def chain : Parser Unit := do
  let _ ← oneOf [.TRANSACTION, .WORK]
  if ← keyword .AND then
    let _ ← keyword .NO
    expectKeyword .CHAIN

/-- A transaction that is taken back, behind the first word. -/
def rollback : Parser Unit := do
  chain
  if ← keyword .TO then
    let _ ← keyword .SAVEPOINT
    let _ ← ident

/-- A point of a transaction that is given up, behind the first word. -/
def release : Parser Unit := do
  let _ ← keyword .SAVEPOINT
  let _ ← ident

end SqlImage.Sql.Grammar
