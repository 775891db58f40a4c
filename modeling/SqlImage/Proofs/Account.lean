/-
This file says what the scopes of a session should report, without any memory. A book
numbers the trees that are made and keeps for every open scope what happened while
it was the innermost one. A scope reports what it made, what of this was given back
in it at least once, what is left, and as invalid everything that was given back in
it although it was made elsewhere or given back before. A tree that was given back
in the scope that made it cannot be used once this scope has closed, and neither can
one that was given back outside all scopes.
-/

import SqlImage.Proofs.Size
import SqlImage.Session

namespace SqlImage.Session

open SqlImage.Image SqlImage.Tree

/-! ### What happens in a scope -/

/-- A tree of a session: how many were made before it, and the number of cells it takes. -/
structure Made where
  number : Nat
  cells : Nat
deriving DecidableEq

/-- What happened while a scope was the innermost one. -/
inductive Event where
  | made (tree : Made)
  | released (tree : Made)
deriving DecidableEq

/-- The tree that something happened to. -/
def Event.tree : Event → Made
  | .made tree => tree
  | .released tree => tree

/-- The trees that were made in a scope. The last event stands first. -/
def madeIn : List Event → List Made
  | [] => []
  | .made tree :: earlier => tree :: madeIn earlier
  | .released _ :: earlier => madeIn earlier

/-- The trees that were made in a scope and given back in it at least once. -/
def givenIn (log : List Event) : List Made := (madeIn log).filter (.released · ∈ log)

/-- The number of cells that some trees take. -/
def cellsOf (trees : List Made) : Nat := (trees.map (·.cells)).sum

/-- The number of cells that were given back in a scope although they were made elsewhere or given
back before. -/
def invalidIn : List Event → Nat
  | [] => 0
  | .made _ :: earlier => invalidIn earlier
  | .released tree :: earlier =>
    (if .made tree ∈ earlier ∧ .released tree ∉ earlier then 0 else tree.cells) + invalidIn earlier

/-- What a scope should report. -/
def account (log : List Event) : Report :=
  ⟨cellsOf (madeIn log), cellsOf (givenIn log), cellsOf (madeIn log) - cellsOf (givenIn log),
    invalidIn log⟩

theorem mem_madeIn {log : List Event} {tree : Made} : tree ∈ madeIn log ↔ .made tree ∈ log := by
  induction log with
  | nil => simp [madeIn]
  | cons event earlier inductionHypothesis => cases event <;> simp [madeIn, inductionHypothesis]

theorem mem_givenIn {log : List Event} {tree : Made} :
    tree ∈ givenIn log ↔ .made tree ∈ log ∧ .released tree ∈ log := by
  rw [givenIn, List.mem_filter, mem_madeIn, decide_eq_true_eq]

theorem cellsOf_cons (tree : Made) (trees : List Made) :
    cellsOf (tree :: trees) = tree.cells + cellsOf trees := rfl

/-- A new tree has not been given back. -/
theorem givenIn_made {log : List Event} {tree : Made} (fresh : .released tree ∉ log) :
    givenIn (.made tree :: log) = givenIn log := by
  simp [givenIn, madeIn, fresh]

/-- One more tree among those that are counted. -/
theorem cellsOf_filter_or (trees : List Made) (distinct : trees.Nodup) (tree : Made)
    (counted : Made → Prop) [DecidablePred counted] :
    cellsOf (trees.filter fun other => other = tree ∨ counted other) =
      (if tree ∈ trees ∧ ¬counted tree then tree.cells else 0) +
        cellsOf (trees.filter counted) := by
  induction trees with
  | nil => simp [cellsOf]
  | cons head tail inductionHypothesis =>
    obtain ⟨headNew, tailDistinct⟩ := List.nodup_cons.mp distinct
    have rest := inductionHypothesis tailDistinct
    by_cases same : head = tree
    · subst same
      have others : tail.filter (fun other => other = head ∨ counted other) =
          tail.filter counted := by
        refine List.filter_congr fun other member => ?_
        have different : other ≠ head := fun same => headNew (same ▸ member)
        simp [different]
      rw [List.filter_cons_of_pos (by simp), others, cellsOf_cons]
      by_cases already : counted head
      · rw [List.filter_cons_of_pos (by simpa using already), cellsOf_cons,
          if_neg fun new => new.2 already, Nat.zero_add]
      · rw [List.filter_cons_of_neg (by simpa using already),
          if_pos ⟨List.mem_cons_self, already⟩]
    · have here : tree ∈ head :: tail ↔ tree ∈ tail := by simp [Ne.symm same]
      simp only [here]
      by_cases already : counted head
      · rw [List.filter_cons_of_pos (by simp [already]),
          List.filter_cons_of_pos (by simp [already]), cellsOf_cons, cellsOf_cons, rest,
          Nat.add_left_comm]
      · rw [List.filter_cons_of_neg (by simp [same, already]),
          List.filter_cons_of_neg (by simp [already]), rest]

/-- Giving back a tree counts if the tree was made here and not given back before. -/
theorem cellsOf_givenIn_released {log : List Event} (once : (madeIn log).Nodup) (tree : Made) :
    cellsOf (givenIn (.released tree :: log)) =
      (if .made tree ∈ log ∧ .released tree ∉ log then tree.cells else 0) +
        cellsOf (givenIn log) := by
  have split := cellsOf_filter_or (madeIn log) once tree (.released · ∈ log)
  simp only [mem_madeIn] at split
  rw [givenIn, madeIn, givenIn, ← split]
  simp only [List.mem_cons, Event.released.injEq]

/-! ### The book of a session -/

/-- What is known about a session without any memory: how many trees were made, which tree a name
stands for, which trees cannot be used any more, and what happened in the open scopes, from the
innermost one outwards. -/
structure Book where
  made : Nat
  names : List (String × Made)
  gone : List Made
  logs : List (List Event)

namespace Book

/-- The book before any step. -/
def start : Book := ⟨0, [], [], []⟩

/-- Makes a tree under a name. -/
def create (book : Book) (name : String) (result : ParseResult) : Book :=
  let tree : Made := ⟨book.made, result.cells⟩
  { book with
    made := book.made + 1
    names := (name, tree) :: book.names
    logs := book.logs.modifyHead (.made tree :: ·) }

/-- Gives back the tree of a name. Outside all scopes it cannot be used any more. -/
def release (book : Book) (name : String) : Book :=
  match book.names.lookup name with
  | none => book
  | some tree =>
    if tree ∈ book.gone then book else
      match book.logs with
      | [] => { book with gone := tree :: book.gone }
      | log :: outer => { book with logs := (.released tree :: log) :: outer }

/-- Opens a scope. -/
def openScope (book : Book) : Book := { book with logs := [] :: book.logs }

/-- Closes the innermost scope. What was made and given back in it cannot be used any more. -/
def closeScope (book : Book) : Report × Book :=
  match book.logs with
  | [] => (account [], book)
  | log :: outer => (account log, { book with gone := givenIn log ++ book.gone, logs := outer })

variable {Remark : Type}

mutual

/-- Enters one step. Gives the reports of the scopes that closed, in the order in which they
closed. -/
def step : Step Remark → Book → List Report × Book
  | .create name result, book => ([], book.create name result)
  | .release name, book => ([], book.release name)
  | .track inner, book =>
    let (reports, book) := steps inner book.openScope
    let (report, book) := book.closeScope
    (reports ++ [report], book)
  | _, book => ([], book)

/-- Enters steps one after the other. -/
def steps : List (Step Remark) → Book → List Report × Book
  | [], book => ([], book)
  | head :: tail, book =>
    let (first, book) := step head book
    let (others, book) := steps tail book
    (first ++ others, book)

end

/-! ### The number of open scopes -/

theorem length_logs_release (book : Book) (name : String) :
    (book.release name).logs.length = book.logs.length := by
  unfold release
  split
  · rfl
  · split
    · rfl
    · split
      · rename_i none
        simp [none]
      · rename_i some
        simp [some]

mutual

theorem length_logs_step : (step : Step Remark) → (book : Book) →
    (Book.step step book).2.logs.length = book.logs.length
  | .create name result, book => List.length_modifyHead
  | .release name, book => book.length_logs_release name
  | .track inner, book => by
    have length := length_logs_steps inner book.openScope
    simp only [Book.step, closeScope]
    split
    · rename_i none
      rw [none] at length
      cases length
    · rename_i log outer some
      rw [some] at length
      exact Nat.succ.inj length
  | .dump _, _ => rfl
  | .read _, _ => rfl
  | .poke .., _ => rfl
  | .null, _ => rfl
  | .remark _, _ => rfl

/-- A step closes as many scopes as it opens. -/
theorem length_logs_steps : (session : List (Step Remark)) → (book : Book) →
    (steps session book).2.logs.length = book.logs.length
  | [], _ => rfl
  | head :: tail, book =>
    (length_logs_steps tail (Book.step head book).2).trans (length_logs_step head book)

end

end Book

end SqlImage.Session
