/-
This file says that whatever is parsed gives a well-formed tree, and that such a tree
survives in an image. Every statement that has a tree has a well-formed one, so
every parse gives well-formed statements, with their lengths or without. What is
read off the image of such statements are these statements with their texts cut.
-/

import SqlImage.Parse
import SqlImage.Proofs.Lowered
import SqlImage.Proofs.Retext

namespace SqlImage

open SqlImage.Image SqlImage.Tree SqlImage.Lowering

namespace Sql

/-! ### Statements -/

/-- No statement but a query is a select. -/
theorem Statement.kind_ne_select {statement : Statement} {kind : StatementKind}
    (isOther : ∀ asked, statement ≠ .query asked) (found : statement.kind = .ok kind) :
    kind ≠ .select := by
  cases statement with
  | query asked => exact absurd rfl (isOther asked)
  | other word => cases found
  | _ =>
    cases found
    decide

theorem Statement.wellFormed_lower {statement : Statement} {tree : Tree.Statement}
    (lowered : statement.lower = .ok tree) : tree.WellFormed := by
  unfold Statement.lower at lowered
  split at lowered
  · rename_i asked
    simp only [bind_eq_ok, pure_eq_ok] at lowered
    obtain ⟨select, made, rfl⟩ := lowered
    exact Statement.wellFormed_select (asked.makes_lower.of_run made)
  · rename_i isOther
    simp only [bind_eq_ok, pure_eq_ok] at lowered
    obtain ⟨kind, found, rfl⟩ := lowered
    exact Statement.wellFormed_ofKind (Statement.kind_ne_select isOther found)

/-- A statement that has a tree has a well-formed one. Of an image of the tree, whatever length the
statement is given, the tree itself is read with its texts cut, and it is still well formed. -/
theorem Statement.lower_survives {statement : Statement} {tree : Tree.Statement}
    (lowered : statement.lower = .ok tree) :
    tree.WellFormed ∧ ∀ (length : UInt64) (heap : Heap),
      (heap.store (.valid [tree.withLength length])).2.read
          (some (heap.store (.valid [tree.withLength length])).1) =
        .ok (.valid [(tree.withLength length).mapTexts cutAtZero]) ∧
      ((tree.withLength length).mapTexts cutAtZero).WellFormed := by
  have wellFormed := Statement.wellFormed_lower lowered
  refine ⟨wellFormed, fun length heap => ?_⟩
  have valid : (ParseResult.valid [tree.withLength length]).WellFormed :=
    List.forall_mem_singleton.mpr (wellFormed.withLength length)
  obtain ⟨read, readWell⟩ := valid.read_image heap
  exact ⟨read, readWell _ List.mem_cons_self⟩

/-- The rows of two tables side by side that are among those of a subquery, sorted and limited. -/
theorem Statement.lower_survives_query :
    let name (value : String) : Ident := ⟨value, none⟩
    let table (value : String) : FromItem := ⟨.table [name value] [] none none [], []⟩
    let rows (item : SelectItem) (tables : List FromItem) (condition : Option Expr) : Body :=
      .select ⟨.no, [], [item], [], tables, [], condition, .keys [], [], none, [], []⟩
    let inner : Query := ⟨none, rows (.expr (.column [name "b"]) none) [table "v"] none,
      [], none, [], none, .unmarked, [], []⟩
    let outer : Query := ⟨none,
      rows (.expr (.column [name "t", name "a"]) (some (name "x"))) [table "t", table "u"]
        (some (.inQuery true (.column [name "a"]) inner)),
      [⟨.column [name "x"], some false, none⟩], some (.literal (.placeholder "?")), [], none,
      .unmarked, [], []⟩
    ∃ tree, (Statement.query outer).lower = .ok tree ∧ tree.WellFormed ∧
      (Heap.empty.store (.valid [tree.withLength 7])).2.read
          (some (Heap.empty.store (.valid [tree.withLength 7])).1) =
        .ok (.valid [(tree.withLength 7).mapTexts cutAtZero]) := by
  intro name table rows inner outer
  have done : (Statement.query outer).lower.isOk = true := by rfl
  cases lowered : (Statement.query outer).lower with
  | error cause =>
    rw [lowered] at done
    cases done
  | ok tree =>
    obtain ⟨wellFormed, survives⟩ := Statement.lower_survives lowered
    exact ⟨tree, rfl, wellFormed, (survives 7 .empty).1⟩

end Sql

/-! ### Texts -/

theorem wellFormed_lowerStatements {statements : List Sql.Statement} {spans : List Sql.Span}
    {trees : List Statement} (lowered : lowerStatements statements spans = .ok trees) :
    ∀ tree ∈ trees, tree.WellFormed := by
  induction statements generalizing spans trees with
  | nil =>
    cases lowered
    nofun
  | cons statement rest inductionHypothesis =>
    simp only [lowerStatements, bind_eq_ok, pure_eq_ok] at lowered
    obtain ⟨tree, treeMade, others, othersMade, rfl⟩ := lowered
    refine List.forall_mem_cons.mpr ⟨?_, inductionHypothesis othersMade⟩
    cases made : statement.lower with
    | error cause =>
      rw [made] at treeMade
      cases treeMade
    | ok found =>
      rw [made] at treeMade
      cases treeMade
      exact (Sql.Statement.wellFormed_lower made).withLength _

/-- Whatever a text holds, what its parse gives is well formed. -/
theorem parse_wellFormed (options : Options) (text : List Char) :
    (parse options text).WellFormed := by
  unfold parse
  split
  · rintro _ ⟨⟩
  · split
    · rintro _ ⟨⟩
    · rename_i lowered
      exact wellFormed_lowerStatements lowered

/-- Whatever bytes are given, what their parse gives is well formed. -/
theorem parseBytes_wellFormed (bytes : List Nat) : (parseBytes bytes).WellFormed := by
  unfold parseBytes
  split
  · exact parse_wellFormed _ _
  · rintro _ ⟨⟩

/-- What a parse gives survives in an image, save for the ends of its texts. -/
theorem parse_survives (options : Options) (text : List Char) (heap : Heap) :
    (heap.store (parse options text)).2.read (some (heap.store (parse options text)).1) =
        .ok ((parse options text).mapTexts cutAtZero) ∧
      ((parse options text).mapTexts cutAtZero).WellFormed :=
  (parse_wellFormed options text).read_image heap

end SqlImage
