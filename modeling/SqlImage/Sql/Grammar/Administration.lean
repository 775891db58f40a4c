/-
This file reads the statements that look after a database: rights, caches, files,
statistics. They have no kind of their own, so only their first word is kept.
-/

import SqlImage.Sql.Grammar.Column

namespace SqlImage.Sql.Grammar

open SqlImage.Sql.Parser

/-! ### Rights -/

/-- A right to do something, with the columns that it is limited to. -/
def privilege : Parser Unit := do
  match ← oneOf [.CONNECT, .CREATE, .DELETE, .EXECUTE, .INSERT, .REFERENCES, .SELECT,
      .TEMPORARY, .TRIGGER, .TRUNCATE, .UPDATE, .USAGE] with
  | none => expected "a privilege keyword"
  | some word =>
    if word ∈ [Keyword.INSERT, .REFERENCES, .SELECT, .UPDATE] then
      let _ ← optionalColumns

/-- Rights and the things that they are about. -/
def privileges : Parser Unit := do
  if ← keyword .ALL then
    let _ ← keyword .PRIVILEGES
  else
    let _ ← commaSeparated privilege
  expectKeyword .ON
  unless ← keywords [.ALL, .TABLES, .IN, .SCHEMA] do
    unless ← keywords [.ALL, .SEQUENCES, .IN, .SCHEMA] do
      let _ ← oneOf [.SEQUENCE, .SCHEMA, .TABLE]
  let _ ← commaSeparated name

/-- Who gave the rights, if that is said. -/
def grantedBy : Parser Unit := do
  if ← keywords [.GRANTED, .BY] then
    let _ ← ident

/-- Rights that are given, behind the first word. -/
def grant : Parser Unit := do
  privileges
  expectKeyword .TO
  let _ ← commaSeparated ident
  let _ ← keywords [.WITH, .GRANT, .OPTION]
  grantedBy

/-- Rights that are taken away, behind the first word. -/
def revoke : Parser Unit := do
  privileges
  expectKeyword .FROM
  let _ ← commaSeparated ident
  grantedBy
  let start ← peekLocated
  let cascades ← keyword .CASCADE
  let restricts ← keyword .RESTRICT
  if cascades && restricts then
    failAt "Cannot specify both CASCADE and RESTRICT in REVOKE" start

/-! ### Running queries and logs -/

/-- A running query that is ended, behind the first word. -/
def kill : Parser Unit := do
  let _ ← oneOf [.CONNECTION, .QUERY, .MUTATION]
  let _ ← wholeNumber

/-- The tables that are flushed, up to the first token that is no word. That token is taken
too. -/
def flushedTables : Parser Unit := do
  loop () fun _ => do
    match ← peek with
    | some (.word ⟨_, _, none⟩) =>
      let _ ← commaSeparated name
      return some ()
    | some (.word ⟨_, _, some .WITH⟩) =>
      let _ ← next
      let _ ← keywords [.READ, .LOCK]
      return some ()
    | some (.word ⟨_, _, some .FOR⟩) =>
      let _ ← next
      let _ ← keyword .EXPORT
      return some ()
    | some (.word _) =>
      let _ ← next
      return some ()
    | _ =>
      let _ ← next
      return none

/-- What is flushed, behind the first word. -/
def flush : Parser Unit := do
  let _ ← oneOf [.NO_WRITE_TO_BINLOG, .LOCAL]
  if ← keywords [.RELAY, .LOGS] then
    if ← keywords [.FOR, .CHANNEL] then
      let _ ← name
    return ()
  if ← keyword .TABLES then return ← flushedTables
  let known : List (List Keyword) := [
    [.BINARY, .LOGS], [.ENGINE, .LOGS], [.ERROR, .LOGS], [.GENERAL, .LOGS], [.HOSTS],
    [.PRIVILEGES], [.OPTIMIZER_COSTS], [.SLOW, .LOGS], [.STATUS], [.USER_RESOURCES], [.LOGS]]
  let found ← known.findSomeM? fun words => do
    return if ← keywords words then some () else none
  if found.isNone then
    expected ("BINARY LOGS, ENGINE LOGS, ERROR LOGS, GENERAL LOGS, HOSTS, LOGS, PRIVILEGES, " ++
      "OPTIMIZER_COSTS,RELAY LOGS [FOR CHANNEL channel], SLOW LOGS, STATUS, USER_RESOURCES")

/-! ### Tables -/

/-- Partitions behind the word that says so, if they are named. -/
def partition? (inner : Inner) : Parser Unit := do
  if ← keyword .PARTITION then
    let _ ← parenthesized inner.exprs

/-- One option of a table that is analyzed, if there is one. -/
def analysisOption (inner : Inner) : Parser (Option Unit) := do
  match ← oneOf [.PARTITION, .FOR, .CACHE, .NOSCAN, .COMPUTE] with
  | none => return none
  | some .PARTITION =>
    let _ ← parenthesized inner.exprs
  | some .FOR =>
    expectKeyword .COLUMNS
    let _ ← attempt (commaSeparated ident)
  | some .CACHE => expectKeyword .METADATA
  | some .COMPUTE => expectKeyword .STATISTICS
  | some _ => return some ()
  return some ()

/-- A table that is analyzed, behind the first word. -/
def analyze (inner : Inner) : Parser Unit := do
  expectKeyword .TABLE
  let _ ← name
  let _ ← many (analysisOption inner)

/-- A table that is emptied, behind the first word. -/
def truncate (inner : Inner) : Parser Unit := do
  let _ ← keyword .TABLE
  let _ ← name
  partition? inner

/-- A table whose partitions are repaired, behind the first word. -/
def repair : Parser Unit := do
  let _ ← keyword .REPAIR
  expectKeyword .TABLE
  let _ ← name
  let _ ← attempt do
    let _ ← oneOf [.ADD, .DROP, .SYNC]
    expectKeyword .PARTITIONS

/-- A database file that is attached, behind the first word. -/
def attach (inner : Inner) : Parser Unit := do
  let _ ← keyword .DATABASE
  let _ ← inner.expr
  expectKeyword .AS
  let _ ← ident

/-! ### Caches -/

/-- The query whose rows are cached, if the text goes on. -/
def cachedQuery (inner : Inner) : Parser Unit := do
  match ← peek with
  | none => return ()
  | some (.word _) =>
    let _ ← keyword .AS
    let _ ← inner.query
  | some _ => expected "a QUERY statement"

/-- A table that is cached, behind its word. -/
def cachedTable (inner : Inner) : Parser Unit := do
  let _ ← name
  settingOptions inner .OPTIONS
  cachedQuery inner

/-- A table that is cached, behind the first word. At the end of the text, the token before it is
blamed for a missing word. -/
def cache (inner : Inner) : Parser Unit := do
  if ← keyword .TABLE then return ← cachedTable inner
  let final ← peekLast
  let _ ← name
  if ← keyword .TABLE then return ← cachedTable inner
  match ← peekLocated with
  | none => expectedAt "a \x60TABLE\x60 keyword" final
  | some _ => expected "a \x60TABLE\x60 keyword"

/-- A table that is cached no more, behind the first word. Nothing may follow it. -/
def uncache : Parser Unit := do
  unless ← keyword .TABLE do expected "a \x60TABLE\x60 keyword"
  let _ ← keywords [.IF, .EXISTS]
  let _ ← name
  if (← peek).isSome then expected "an \x60EOF\x60"

/-- What is forgotten, behind the first word. -/
def discard : Parser Unit := do
  if (← oneOf [.ALL, .PLANS, .SEQUENCES, .TEMP, .TEMPORARY]).isNone then
    expected "ALL, PLANS, SEQUENCES, TEMP or TEMPORARY after DISCARD"

end SqlImage.Sql.Grammar
