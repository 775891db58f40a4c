/-
This file puts the clauses of a query into the tree of its body. Named queries
always belong to the select. An order and a limit belong to the last set operation
if the body is one, and to the select otherwise. A slot that is full already keeps
what it holds, and the query is refused.
-/

import SqlImage.Lowering.Unsupported
import SqlImage.Sql.Syntax.Basic
import SqlImage.Tree.Basic

namespace SqlImage

/-! ### Compound bodies -/

namespace Sql

mutual

/-- Whether the body of a query is a set operation, parentheses around it left out. -/
def Query.isCompound : Query → Bool
  | ⟨_, body, _, _, _, _, _, _, _⟩ => body.isCompound

/-- Whether a body is a set operation, parentheses around it left out. -/
def Body.isCompound : Body → Bool
  | .operation .. => true
  | .query query => query.isCompound
  | _ => false

end

end Sql

/-! ### Slots -/

namespace Lowering

/-- A slot with a clause put into it, if there is one. A slot holds one clause at most. -/
def fill {α : Type} (cause : Unsupported) (slot clause : Option α) :
    Except Unsupported (Option α) :=
  match clause, slot with
  | none, slot => .ok slot
  | some clause, none => .ok (some clause)
  | some _, some _ => .error cause

/-- A set operation with an order and a limit put into its slots. -/
def fillOperation (order : Option (List Tree.Order)) (limit : Option Tree.Limit)
    (operation : Tree.SetOperation) : Except Unsupported Tree.SetOperation := do
  let resultOrder ← fill .nestedOrder operation.resultOrder order
  let resultLimit ← fill .nestedLimit operation.resultLimit limit
  return { operation with resultOrder, resultLimit }

/-- Set operations with an order and a limit put into the slots of the last one. -/
def fillLast (order : Option (List Tree.Order)) (limit : Option Tree.Limit) :
    Tree.SetOperation → List Tree.SetOperation → Except Unsupported (List Tree.SetOperation)
  | last, [] => return [← fillOperation order limit last]
  | first, second :: rest => return first :: (← fillLast order limit second rest)

/-- A select with an order and a limit put into the slots that are theirs. -/
def fillRows (compound : Bool) (order : Option (List Tree.Order)) (limit : Option Tree.Limit)
    (select : Tree.Select) : Except Unsupported Tree.Select :=
  match compound, select.setOperations with
  | true, some (first :: rest) => do
    return { select with setOperations := some (← fillLast order limit first rest) }
  | _, _ => do
    let order ← fill .nestedOrder select.order order
    let limit ← fill .nestedLimit select.limit limit
    return { select with order, limit }

/-- A select with named queries put into their slot. -/
def fillTables (tables : Option (List Tree.With)) (select : Tree.Select) :
    Except Unsupported Tree.Select := do
  let withDescriptions ← fill .nestedWith select.withDescriptions tables
  return { select with withDescriptions }

/-- A select with one more set operation behind those that it has. -/
def addOperation (operation : Tree.SetOperation) (select : Tree.Select) : Tree.Select :=
  { select with setOperations := some (select.setOperations.getD [] ++ [operation]) }

end Lowering

end SqlImage
