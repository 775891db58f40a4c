/-
This file says how the statements of a text are read. Each statement takes a block of
tokens that begins with something else than a semicolon, and behind it comes a
semicolon, the word that ends the text, or nothing. What a block holds is up to the
parser of the statement, so it may well hold semicolons of its own.
-/

import SqlImage.Proofs.Progress
import SqlImage.Proofs.Spans

namespace SqlImage.Sql.Grammar

open SqlImage.Sql.Parser

/-- The statements that a parser reads off tokens one after the other, each with the tokens that it
takes. -/
inductive Reads (parser : Parser Statement) (room : Nat) :
    List Placed → List Statement → List (List Placed) → Prop where
  | nothing : Reads parser room [] [] []
  | separator {head : Placed} {tail : List Placed} {statements : List Statement}
      {blocks : List (List Placed)} (separates : head.isSeparator = true)
      (further : Reads parser room tail statements blocks) :
      Reads parser room (head :: tail) statements blocks
  /-- Behind the last statement the text is over, or the word `END` ends it. -/
  | last {head : Placed} {taken rest : List Placed} {statement : Statement}
      (begins : head.isSeparator = false)
      (read : parser.run room ((head :: taken ++ rest).map Placed.located) =
        .ok statement (rest.map Placed.located))
      (ended : ∀ ending ∈ rest.head?, ending.token.keyword? = some .END) :
      Reads parser room (head :: taken ++ rest) [statement] [head :: taken]
  | statement {head separator : Placed} {taken tail : List Placed} {statement : Statement}
      {statements : List Statement} {blocks : List (List Placed)}
      (begins : head.isSeparator = false)
      (read : parser.run room ((head :: taken ++ separator :: tail).map Placed.located) =
        .ok statement ((separator :: tail).map Placed.located))
      (separates : separator.isSeparator = true)
      (further : Reads parser room tail statements blocks) :
      Reads parser room (head :: taken ++ separator :: tail) (statement :: statements)
        ((head :: taken) :: blocks)

theorem Reads.length_blocks {parser : Parser Statement} {room : Nat} {solid : List Placed}
    {statements : List Statement} {blocks : List (List Placed)}
    (reads : Reads parser room solid statements blocks) :
    blocks.length = statements.length := by
  induction reads with
  | nothing => rfl
  | separator _ _ inductionHypothesis => exact inductionHypothesis
  | last => rfl
  | statement _ _ _ _ inductionHypothesis =>
    rw [List.length_cons, List.length_cons, inductionHypothesis]

/-! ### One round -/

section Round

variable {inner : Inner} {room : Nat} {found : List Statement} {behindOne : Bool}
  {tokens rest : List Located} {result : Option (List Statement × Bool)}

/-- A round takes a semicolon, ends at the end of the text, or reads a statement. -/
theorem run_nextStatement
    (done : (nextStatement inner found behindOne).run room tokens = .ok result rest) :
    (∃ head, tokens = head :: rest ∧ head.token = .symbol .semicolon ∧
      result = some (found, false)) ∨
    (result = none ∧ rest = tokens ∧
      ∀ head ∈ tokens.head?, behindOne = true ∧ head.token.keyword? = some .END) ∨
    (∃ head tail statement, tokens = head :: tail ∧ head.token ≠ .symbol .semicolon ∧
      behindOne = false ∧ inner.statement.run room tokens = .ok statement rest ∧
      result = some (statement :: found, true)) := by
  obtain ⟨separates, between, tested, onward⟩ := run_bind_eq_ok.mp done
  clear done
  cases separates with
  | true =>
    obtain ⟨head, rfl, same⟩ := run_symbol_true tested
    cases onward
    exact .inl ⟨head, rfl, same, rfl⟩
  | false =>
    obtain ⟨rfl, other⟩ := run_symbol_false tested
    right
    cases between with
    | nil =>
      cases onward
      exact .inl ⟨rfl, rfl, fun _ member => by cases member⟩
    | cons head tail =>
      have notSeparator : head.token ≠ .symbol .semicolon := other head rfl
      obtain ⟨seen, same, looked, further⟩ := run_bind_eq_ok.mp onward
      clear onward
      cases looked
      cases behindOne with
      | true =>
        left
        by_cases ends : head.token.keyword? = some .END
        · simp only [List.head?_cons, Option.map_some, if_true, if_pos ends] at further
          cases further
          refine ⟨rfl, rfl, ?_⟩
          rintro _ ⟨⟩
          exact ⟨rfl, ends⟩
        · simp only [List.head?_cons, Option.map_some, if_true, if_neg ends] at further
          obtain ⟨_, _, impossible, -⟩ := run_bind_eq_ok.mp further
          cases impossible
      | false =>
        right
        obtain ⟨statement, left, read, same⟩ := run_bind_eq_ok.mp further
        cases same
        exact ⟨head, tail, statement, rfl, notSeparator, rfl, read, rfl⟩

end Round

/-! ### All rounds -/

section Rounds

variable {inner : Inner} {room : Nat}

/-- What is read behind a statement: nothing, if it is the last one, or all that is read behind the
semicolon. -/
def ReadsBehind (parser : Parser Statement) (room : Nat) (solid : List Placed)
    (statements : List Statement) (blocks : List (List Placed)) : Prop :=
  (statements = [] ∧ blocks = [] ∧
    ∀ ending ∈ solid.head?, ending.token.keyword? = some .END) ∨
  ∃ separator tail, solid = separator :: tail ∧ separator.isSeparator = true ∧
    Reads parser room tail statements blocks

/-- What a statement leaves are the last ones of the tokens that were there. -/
theorem exists_taken {parser : Parser Statement} (takes : Takes parser) {solid : List Placed}
    {statement : Statement} {rest : List Located}
    (read : parser.run room (solid.map Placed.located) = .ok statement rest) :
    ∃ head taken left, solid = head :: taken ++ left ∧ rest = left.map Placed.located := by
  have suffix := parser.rest_suffix room (solid.map Placed.located)
  have shorter := takes room _ statement rest read
  rw [read] at suffix
  obtain ⟨before, whole⟩ := suffix
  obtain ⟨taken, left, rfl, same, rfl⟩ := List.map_eq_append_iff.mp whole.symm
  cases taken with
  | nil =>
    rw [List.nil_append] at shorter
    exact absurd shorter (Nat.lt_irrefl _)
  | cons head taken => exact ⟨head, taken, left, rfl, rfl⟩

/-- A semicolon is a separator, and nothing else is. -/
theorem isSeparator_eq_false {head : Placed} (other : head.token ≠ .symbol .semicolon) :
    head.isSeparator = false := decide_eq_false other

/-- A statement is read before what is read behind it. -/
theorem ReadsBehind.after {parser : Parser Statement} {head : Placed} {taken left : List Placed}
    {statement : Statement} {statements : List Statement} {blocks : List (List Placed)}
    (behind : ReadsBehind parser room left statements blocks) (begins : head.isSeparator = false)
    (read : parser.run room ((head :: taken ++ left).map Placed.located) =
      .ok statement (left.map Placed.located)) :
    Reads parser room (head :: taken ++ left) (statement :: statements)
      ((head :: taken) :: blocks) := by
  rcases behind with ⟨rfl, rfl, ended⟩ | ⟨separator, tail, rfl, separates, reads⟩
  · exact .last begins read ended
  · exact .statement begins read separates reads

/-- Nothing more is read where the rounds end. -/
theorem reads_at_end {parser : Parser Statement} {solid : List Placed} {behindOne : Bool}
    (ends : ∀ ending ∈ solid.head?, behindOne = true ∧ ending.token.keyword? = some .END) :
    if behindOne then ReadsBehind parser room solid [] [] else Reads parser room solid [] [] := by
  cases behindOne with
  | true => exact .inl ⟨rfl, rfl, fun ending member => (ends ending member).2⟩
  | false =>
    cases solid with
    | nil => exact .nothing
    | cons first others => exact absurd (ends first rfl).1 Bool.false_ne_true

theorem reads_of_iterate (takes : Takes inner.statement) {fuel : Nat} {solid : List Placed}
    {found all : List Statement} {behindOne ended : Bool} {rest : List Located}
    (enough : solid.length < fuel)
    (done : (iterate (fun state : List Statement × Bool => nextStatement inner state.1 state.2)
      fuel (found, behindOne)).run room (solid.map Placed.located) = .ok (all, ended) rest) :
    ∃ statements blocks, all = statements.reverse ++ found ∧
      if behindOne then ReadsBehind inner.statement room solid statements blocks
      else Reads inner.statement room solid statements blocks := by
  induction fuel generalizing solid found behindOne with
  | zero => exact absurd enough (Nat.not_lt_zero _)
  | succ fuel inductionHypothesis =>
    obtain ⟨result, between, round, further⟩ := run_bind_eq_ok.mp done
    clear done
    rcases run_nextStatement round with ⟨head, tokensEq, separates, rfl⟩ |
      ⟨rfl, rfl, ends⟩ | ⟨head, tail, statement, tokensEq, other, rfl, read, rfl⟩
    · obtain ⟨first, others, rfl, rfl, rfl⟩ := List.map_eq_cons_iff.mp tokensEq
      have isSeparator : first.isSeparator = true := decide_eq_true separates
      obtain ⟨statements, blocks, rfl, reads⟩ :=
        inductionHypothesis (Nat.lt_of_succ_lt_succ enough) further
      refine ⟨statements, blocks, rfl, ?_⟩
      cases behindOne with
      | true => exact .inr ⟨first, others, rfl, isSeparator, reads⟩
      | false => exact .separator isSeparator reads
    · cases further
      rw [List.head?_map] at ends
      exact ⟨[], [], rfl, reads_at_end fun ending member =>
        ends ending.located (Option.mem_map_of_mem Placed.located member)⟩
    · obtain ⟨first, taken, left, rfl, rfl⟩ := exists_taken takes read
      cases tokensEq
      have begins : first.isSeparator = false := isSeparator_eq_false other
      have shorter : left.length < fuel := by
        rw [List.length_append, List.length_cons] at enough
        omega
      obtain ⟨statements, blocks, rfl, behind⟩ := inductionHypothesis shorter further
      refine ⟨statement :: statements, (first :: taken) :: blocks, ?_, behind.after begins read⟩
      rw [List.reverse_cons, List.append_assoc, List.singleton_append]

/-- What the grammar reads off some tokens are statements one after the other. -/
theorem reads_statements (takes : Takes inner.statement) {solid : List Placed}
    {statements : List Statement} {rest : List Located}
    (done : (Grammar.statements inner).run room (solid.map Placed.located) =
      .ok statements rest) :
    ∃ blocks, Reads inner.statement room solid statements blocks := by
  obtain ⟨⟨all, ended⟩, between, rounds, same⟩ := run_bind_eq_ok.mp done
  cases same
  have enough : solid.length < (solid.map Placed.located).length + 1 := by
    rw [List.length_map]
    exact Nat.lt_succ_self _
  obtain ⟨statements, blocks, rfl, reads⟩ := reads_of_iterate takes enough rounds
  refine ⟨blocks, ?_⟩
  rw [List.append_nil, List.reverse_reverse]
  exact reads

end Rounds

end SqlImage.Sql.Grammar
