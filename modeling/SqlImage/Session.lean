/-
This file runs sessions. A session works on images by name: it makes them, shows
them, reads them, overwrites parts of them and gives them back, in scopes that
may lie inside one another. A step that fails leaves everything as it was, and
the next step runs. An image that was given back in the scope that made it cannot
be named any more once that scope has closed.
-/

import SqlImage.Image.Poke
import SqlImage.Image.Read
import SqlImage.Image.Release
import SqlImage.Image.Store
import SqlImage.Tree.Same

namespace SqlImage

open SqlImage.Image SqlImage.Tree

namespace Session

/-- One step of a session. What stands in for a step that could not be made out is passed on as
its answer. -/
inductive Step (Remark : Type) where
  /-- Makes the image of a result under a name. An older image of that name is forgotten. -/
  | create (name : String) (result : ParseResult)
  | dump (name : String)
  | read (name : String)
  | poke (name : String) (path : List Key) (patch : Patch)
  | release (name : String)
  /-- Gives back and reads an image that is not there. -/
  | null
  /-- Runs steps in a scope of their own. -/
  | track (steps : List (Step Remark))
  | remark (remark : Remark)

/-- Why a step fails. -/
inductive Failure where
  | noSuchSlot
  | slotGone
  | poke (fault : PokeFault)
  | read (fault : ReadFault)
deriving DecidableEq, Repr

/-- The answer to a step. -/
inductive Answer (Remark : Type) where
  | created (valid : Bool) (count : Nat)
  | dumped (content : Content)
  /-- The tree read off an image, and whether it is the one that the image was made from. -/
  | read (result : ParseResult) (same : Bool)
  | done
  | null (fault : ReadFault)
  | tracked (answers : List (Answer Remark)) (report : Report)
  | failed (failure : Failure)
  | remark (remark : Remark)

/-- What a session knows of a named image: where its root is, the result it was made from, the
scope it was made in, and whether it was given back there or is gone. -/
structure Held where
  root : Address
  origin : ParseResult
  scope : Option Nat
  released : Bool
  gone : Bool

/-- The memory and the named images, the last one made first. -/
structure State where
  heap : Heap
  slots : List (String × Held)

namespace State

/-- The state before any step. -/
def start : State := ⟨.empty, []⟩

/-- The image of a given name. -/
def held? (state : State) (name : String) : Except Failure Held :=
  match state.slots.lookup name with
  | none => .error .noSuchSlot
  | some held => if held.gone then .error .slotGone else .ok held

/-- The same state with other knowledge of a named image. -/
def setHeld (state : State) (name : String) (held : Held) : State :=
  { state with slots := (name, held) :: state.slots.filter (·.1 ≠ name) }

/-- Makes an image. -/
def create (state : State) (name : String) (result : ParseResult) : State :=
  let (root, heap) := state.heap.store result
  { state with heap }.setHeld name ⟨root, result, state.heap.innermost?, false, false⟩

/-- Gives back an image. -/
def release (state : State) (name : String) : Except Failure State := do
  let held ← state.held? name
  match state.heap.release (some held.root) with
  | .error _ => throw .slotGone
  | .ok heap =>
    let own : Bool := held.scope = state.heap.innermost?
    return { state with heap }.setHeld name { held with released := held.released || own }

/-- Opens a scope. -/
def openScope (state : State) : State := { state with heap := state.heap.openScope }

/-- Closes the innermost scope. The images made and given back in it are gone. -/
def closeScope (state : State) : Report × State :=
  let scope := state.heap.innermost?
  let (report, heap) := state.heap.closeScope
  (report, {
    heap
    slots := state.slots.map fun (name, held) =>
      (name, { held with gone := held.gone || (held.released && held.scope = scope) }) })

end State

variable {Remark : Type}

/-- An answer or the failure in its place. -/
def answer (result : Except Failure (Answer Remark)) : Answer Remark :=
  match result with
  | .ok answer => answer
  | .error failure => .failed failure

/-- Shows an image. -/
def dump (state : State) (name : String) : Except Failure (Answer Remark) := do
  let held ← state.held? name
  match state.heap.load held.root with
  | some content => return .dumped content
  | none => throw .slotGone

/-- Reads an image. -/
def read (state : State) (name : String) : Except Failure (Answer Remark) := do
  let held ← state.held? name
  match state.heap.read (some held.root) with
  | .ok result => return .read result (result.same held.origin)
  | .error .gone => throw .slotGone
  | .error (.unreadable fault) => throw (.read fault)

/-- Overwrites a part of an image. -/
def poke (state : State) (name : String) (path : List Key) (patch : Patch) :
    Except Failure State := do
  let held ← state.held? name
  match state.heap.poke held.root path patch with
  | .ok heap => return { state with heap }
  | .error fault => throw (.poke fault)

/-- What reading an image that is not there gives. -/
def readNull (state : State) : Answer Remark :=
  match state.heap.read none with
  | .error (.unreadable fault) => .null fault
  | _ => .null .invalidPointer

mutual

/-- Runs one step. -/
def step : Step Remark → State → Answer Remark × State
  | .create name result, state =>
    (.created result.isValid result.statements.length, state.create name result)
  | .dump name, state => (answer (dump state name), state)
  | .read name, state => (answer (read state name), state)
  | .poke name path patch, state =>
    match poke state name path patch with
    | .ok state => (.done, state)
    | .error failure => (.failed failure, state)
  | .release name, state =>
    match state.release name with
    | .ok state => (.done, state)
    | .error failure => (.failed failure, state)
  | .null, state => (readNull state, state)
  | .track inner, state =>
    let (answers, state) := steps inner state.openScope
    let (report, state) := state.closeScope
    (.tracked answers report, state)
  | .remark remark, state => (.remark remark, state)

/-- Runs steps one after the other. -/
def steps : List (Step Remark) → State → List (Answer Remark) × State
  | [], state => ([], state)
  | head :: tail, state =>
    let (first, state) := step head state
    let (others, state) := steps tail state
    (first :: others, state)

end

/-- Runs a whole session in one scope. -/
def run (session : List (Step Remark)) : List (Answer Remark) × Report :=
  let (answers, state) := steps session State.start.openScope
  (answers, state.closeScope.1)

end Session

end SqlImage
