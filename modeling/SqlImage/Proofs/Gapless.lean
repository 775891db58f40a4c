/-
This file says that the parameters of a statement are numbered without a gap: whatever a
tree is made of, its parameters have the numbers from zero on, each of them once. The
count starts anew with every statement, so nothing that was counted before, by
statements with a tree or without one, shows in the tree.
-/

import SqlImage.Proofs.Numbered
import SqlImage.Proofs.Places

namespace SqlImage

open SqlImage.Tree SqlImage.Lowering

/-! ### Numbers from zero on -/

namespace Lowering

theorem length_numbers (before count : Nat) : (numbers before count).length = count := by
  rw [numbers, List.length_map, List.length_range']

/-- As long as they fit 64 bits with a sign, the numbers are the integers that they stand for. -/
theorem numbers_toInt {count : Nat} (small : count ≤ Nat.pow 2 63) :
    (numbers 0 count).map Int64.toInt = (List.range count).map Int.ofNat := by
  rw [numbers, List.map_map, List.range_eq_range']
  refine List.map_congr_left fun index member => ?_
  have bound : index < Nat.pow 2 63 := by
    rw [List.mem_range'_1, Nat.zero_add] at member
    exact member.2.trans_le small
  exact Int64.toInt_ofNat_of_lt bound

/-- Numbers are given without a gap if they are those from zero on, each of them once. -/
def Gapless (given : List Int64) : Prop := given.Perm (numbers 0 given.length)

theorem gapless_of_perm {given : List Int64} {count : Nat} (same : given.Perm (numbers 0 count)) :
    Gapless given := by
  have counted : given.length = count := by rw [same.length_eq, length_numbers]
  rwa [Gapless, counted]

theorem gapless_nil : Gapless [] := .refl _

theorem Gapless.toInt {given : List Int64} (gapless : Gapless given)
    (small : given.length ≤ Nat.pow 2 63) :
    (given.map Int64.toInt).Perm ((List.range given.length).map Int.ofNat) := by
  rw [← numbers_toInt small]
  exact gapless.map _

end Lowering

/-! ### The parameters of a statement -/

namespace Tree

theorem Base.parameters_eq (base : Base) :
    base.parameters = optionalExprsParameters base.hints := by
  cases base
  rw [Base.parameters]

/-- The numbers of the parameters in a statement. -/
def Statement.parameters : Statement → List Int64
  | .select body => body.parameters
  | .insert base | .update base | .delete base | .other base => base.parameters

/-- A length is no parameter. -/
theorem Statement.parameters_withLength (length : UInt64) (statement : Statement) :
    (statement.withLength length).parameters = statement.parameters := by
  cases statement with
  | select body =>
    cases body
    simp only [withLength, parameters, Select.parameters, Base.parameters_eq]
  | _ => simp only [withLength, parameters, Base.parameters_eq]

/-- A statement that is known by its kind only has no parameter. -/
theorem Statement.parameters_ofKind (kind : StatementKind) :
    (Statement.ofBase (.ofKind kind)).parameters = [] := by
  cases kind <;> rfl

end Tree

namespace Sql

/-! ### Statements one after the other -/

/-- The tree of one of several statements. Whatever those before it counted is forgotten first. -/
def Statement.lowerNext (statement : Statement) : Lowering Tree.Statement := do
  set 0
  match statement with
  | .query asked => return .select (← asked.lower)
  | statement => return .ofBase (.ofKind (← statement.kind))

theorem Statement.lowerNext_query (asked : Query) (before : Nat) :
    (Statement.query asked).lowerNext before =
      (asked.lower 0).map fun made => (.select made.1, made.2) := by
  show (asked.lower 0 >>= fun made => Except.ok (Tree.Statement.select made.1, made.2)) = _
  cases asked.lower 0 <;> rfl

/-- One of several statements has the tree that it has by itself. -/
theorem Statement.lowerNext_run' (statement : Statement) (before : Nat) :
    statement.lowerNext.run' before = statement.lower := by
  cases statement with
  | query asked =>
    rw [StateT.run', lowerNext_query, Statement.lower, StateT.run']
    cases asked.lower 0 <;> rfl
  | _ => rfl

theorem Statement.gapless_lowerNext {statement : Statement} {before after : Nat}
    {tree : Tree.Statement} (lowered : statement.lowerNext before = .ok (tree, after)) :
    Gapless tree.parameters := by
  cases statement with
  | query asked =>
    rw [lowerNext_query] at lowered
    cases made : asked.lower 0 with
    | error cause =>
      rw [made] at lowered
      cases lowered
    | ok outcome =>
      rw [made] at lowered
      cases lowered
      obtain ⟨-, numbered⟩ := asked.adds_lower 0 _ _ made
      exact gapless_of_perm numbered
  | other word => cases lowered
  | _ =>
    cases lowered
    rw [Tree.Statement.parameters_ofKind]
    exact gapless_nil

theorem Statement.gapless_lower {statement : Statement} {tree : Tree.Statement}
    (lowered : statement.lower = .ok tree) : Gapless tree.parameters := by
  rw [← statement.lowerNext_run' 0] at lowered
  exact (show Makes statement.lowerNext (Gapless ·.parameters) from
    fun _ _ _ => gapless_lowerNext).of_run lowered

/-- Whatever was counted before a statement, the parameters of its tree have the numbers from zero
on, each of them once, and neither the tree nor the count that is left behind it depends on what was
counted before. -/
theorem Statement.numbered_from_zero {statement : Statement} {before after : Nat}
    {tree : Tree.Statement} (lowered : statement.lowerNext before = .ok (tree, after)) :
    Gapless tree.parameters ∧
      (tree.parameters.length ≤ Nat.pow 2 63 → (tree.parameters.map Int64.toInt).Perm
        ((List.range tree.parameters.length).map Int.ofNat)) ∧
      statement.lower = .ok tree ∧
      ∀ other, statement.lowerNext other = .ok (tree, after) := by
  have gapless := gapless_lowerNext lowered
  refine ⟨gapless, gapless.toInt, ?_, fun other => ?_⟩
  · rw [← statement.lowerNext_run' before, StateT.run', lowered]
    rfl
  · exact lowered

/-- A query whose limit and offset are reached last, behind a statement that counted seven. -/
theorem Statement.numbered_from_zero_fourPlaceholders :
    ∃ tree, (Statement.query .fourPlaceholders).lowerNext 7 = .ok (tree, 4) ∧
      tree.parameters.length = 4 ∧
      (tree.parameters.map Int64.toInt).Perm [0, 1, 2, 3] ∧
      (Statement.query .fourPlaceholders).lower = .ok tree ∧
      (Statement.query .fourPlaceholders).lowerNext 0 = .ok (tree, 4) := by
  have done : ((Statement.query .fourPlaceholders).lowerNext 7).map
      (fun made => (made.1.parameters.length, made.2)) = .ok (4, 4) := by rfl
  cases lowered : (Statement.query .fourPlaceholders).lowerNext 7 with
  | error cause =>
    rw [lowered] at done
    cases done
  | ok outcome =>
    obtain ⟨tree, after⟩ := outcome
    rw [lowered] at done
    obtain ⟨counted, rfl⟩ := Prod.mk.inj (Except.ok.inj done)
    obtain ⟨-, integers, alone, again⟩ := numbered_from_zero lowered
    rw [counted] at integers
    exact ⟨tree, rfl, counted, integers (by decide), alone, again 0⟩

end Sql

/-! ### Statements of a text -/

/-- Whatever a text holds, the parameters of each of its statements are numbered without a gap. -/
theorem gapless_parse (options : Options) (text : List Char) :
    ∀ tree ∈ (parse options text).statements, Gapless tree.parameters := by
  cases parsed : Sql.parseText options.recursionLimit.toNat text with
  | error error =>
    rw [parse, parsed]
    exact List.forall_mem_nil _
  | ok statements =>
    intro tree member
    cases given : parse options text with
    | invalid error =>
      rw [given] at member
      cases member
    | valid trees =>
      rw [given] at member
      obtain ⟨located, -, lowered, made, rfl⟩ :=
        Sql.exists_of_forall₂ ((answers_parse parsed).valid trees given).flip member
      rw [Tree.Statement.parameters_withLength]
      exact Sql.Statement.gapless_lower made

end SqlImage
