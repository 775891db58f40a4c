/-
This file says that a statement is never empty: whatever it is, its parser takes a
token. A parser that takes one does so whatever is run behind it, and since no
parser gives tokens back, also whatever is run before it. So it is enough to look at
the words that a body or a statement may begin with.
-/

import SqlImage.Sql.Grammar

namespace SqlImage.Sql

open SqlImage.Sql.Parser

namespace Parser

section Run

variable {α β : Type} {parser : Parser α} {following : α → Parser β} {room : Nat}
  {tokens rest : List Located}

/-- Two parsers succeed one after the other if each of them does. -/
theorem run_bind_eq_ok {value : β} : (parser >>= following).run room tokens = .ok value rest ↔
    ∃ first between, parser.run room tokens = .ok first between ∧
      (following first).run room between = .ok value rest := by
  constructor
  · intro done
    cases found : parser.run room tokens with
    | ok first between =>
      refine ⟨first, between, rfl, ?_⟩
      simpa only [bind, found] using done
    | error error between =>
      simp only [bind, found] at done
      cases done
  · rintro ⟨first, between, found, done⟩
    simpa only [bind, found] using done

end Run

/-! ### Taking tokens -/

section Takes

variable {α β : Type}

/-- A parser that succeeds leaves fewer tokens. -/
def Takes {α : Type} (parser : Parser α) : Prop :=
  ∀ room tokens value rest, parser.run room tokens = .ok value rest →
    rest.length < tokens.length

variable {parser : Parser α} {following : α → Parser β}

theorem takes_fail (error : ParseError) : Takes (fail error : Parser α) := nofun

theorem takes_expected (what : String) : Takes (expected what : Parser α) := nofun

theorem takes_expectedAt (what : String) (found : Option Located) :
    Takes (expectedAt what found : Parser α) := nofun

theorem rest_length_le {room : Nat} {tokens rest : List Located} {value : α}
    (done : parser.run room tokens = .ok value rest) : rest.length ≤ tokens.length := by
  have suffix := parser.rest_suffix room tokens
  rw [done] at suffix
  exact suffix.length_le

theorem Takes.bind (takes : Takes parser) : Takes (parser >>= following) := by
  intro room tokens value rest done
  obtain ⟨first, between, found, further⟩ := run_bind_eq_ok.mp done
  exact Nat.lt_of_le_of_lt (rest_length_le further) (takes room tokens first between found)

/-- What takes a token still takes one with anything before it. -/
theorem takes_bind (takes : ∀ first, Takes (following first)) : Takes (parser >>= following) := by
  intro room tokens value rest done
  obtain ⟨first, between, found, further⟩ := run_bind_eq_ok.mp done
  exact Nat.lt_of_lt_of_le (takes first room between value rest further) (rest_length_le found)

theorem Takes.deeper (takes : Takes parser) : Takes (deeper parser) := by
  intro room tokens value rest done
  cases room with
  | zero => cases done
  | succ room => exact takes room tokens value rest done

theorem takes_delayed (made : Unit → Parser α) (takes : Takes (made ())) :
    Takes (delayed made) := takes

/-- Behind a token that is taken nothing need be, unless there is none. -/
theorem takes_next_bind {following : Option Located → Parser β} (atEnd : Takes (following none)) :
    Takes (next >>= following) := by
  intro room tokens value rest done
  obtain ⟨first, between, found, further⟩ := run_bind_eq_ok.mp done
  cases tokens with
  | nil =>
    cases found
    exact atEnd room [] value rest further
  | cons head tail =>
    cases found
    exact Nat.lt_succ_of_le (rest_length_le further)

theorem accept_some {test : Token → Option α} {room : Nat} {tokens rest : List Located} {value : α}
    (done : (accept test).run room tokens = .ok (some value) rest) :
    ∃ head, tokens = head :: rest ∧ test head.token = some value := by
  cases tokens with
  | nil => cases done
  | cons head tail =>
    dsimp only [accept] at done
    split at done
    · rename_i passed
      cases done
      exact ⟨head, rfl, passed⟩
    · cases done

theorem accept_none {test : Token → Option α} {room : Nat} {tokens rest : List Located}
    (done : (accept test).run room tokens = .ok none rest) :
    rest = tokens ∧ ∀ head ∈ tokens.head?, test head.token = none := by
  cases tokens with
  | nil =>
    cases done
    exact ⟨rfl, fun _ member => by cases member⟩
  | cons head tail =>
    dsimp only [accept] at done
    split at done
    · cases done
    · rename_i failed
      cases done
      refine ⟨rfl, fun first member => ?_⟩
      cases member
      exact failed

theorem run_symbol_true {sign : Symbol} {room : Nat} {tokens rest : List Located}
    (done : (symbol sign).run room tokens = .ok true rest) :
    ∃ head, tokens = head :: rest ∧ head.token = .symbol sign := by
  obtain ⟨first, between, found, same⟩ := run_bind_eq_ok.mp done
  cases first with
  | none => cases same
  | some first =>
    cases same
    obtain ⟨head, rfl, passed⟩ := accept_some found
    refine ⟨head, rfl, ?_⟩
    split at passed
    · assumption
    · cases passed

theorem run_symbol_false {sign : Symbol} {room : Nat} {tokens rest : List Located}
    (done : (symbol sign).run room tokens = .ok false rest) :
    rest = tokens ∧ ∀ head ∈ tokens.head?, head.token ≠ .symbol sign := by
  obtain ⟨first, between, found, same⟩ := run_bind_eq_ok.mp done
  cases first with
  | some first => cases same
  | none =>
    cases same
    obtain ⟨rfl, failed⟩ := accept_none found
    refine ⟨rfl, fun head member same => ?_⟩
    have none := failed head member
    rw [if_pos same] at none
    cases none

/-- A test takes a token if it succeeds. -/
def TakesIfTrue (test : Parser Bool) : Prop :=
  ∀ room tokens rest, test.run room tokens = .ok true rest → rest.length < tokens.length

theorem takesIfTrue_isSome (test : Token → Option α) :
    TakesIfTrue (do return (← accept test).isSome) := by
  intro room tokens rest done
  obtain ⟨first, between, found, same⟩ := run_bind_eq_ok.mp done
  cases first with
  | none => cases same
  | some first =>
    cases same
    obtain ⟨head, rfl, -⟩ := accept_some found
    exact Nat.lt_succ_self _

theorem takesIfTrue_symbol (sign : Symbol) : TakesIfTrue (symbol sign) := takesIfTrue_isSome _

theorem takesIfTrue_keyword (word : Keyword) : TakesIfTrue (keyword word) := takesIfTrue_isSome _

/-- Behind a test that has failed a token has still to be taken. -/
theorem TakesIfTrue.bind {test : Parser Bool} {following : Bool → Parser β}
    (takes : TakesIfTrue test) (otherwise : Takes (following false)) :
    Takes (test >>= following) := by
  intro room tokens value rest done
  obtain ⟨first, between, found, further⟩ := run_bind_eq_ok.mp done
  cases first with
  | true => exact Nat.lt_of_le_of_lt (rest_length_le further) (takes room tokens between found)
  | false =>
    exact Nat.lt_of_lt_of_le (otherwise room between value rest further) (rest_length_le found)

end Takes

end Parser

namespace Grammar

/-! ### Queries -/

theorem takes_bareBody (inner : Inner) : Takes (bareBody inner) := by
  unfold bareBody
  refine (takesIfTrue_keyword _).bind ?_
  refine (takesIfTrue_symbol _).bind ?_
  refine (takesIfTrue_keyword _).bind ?_
  refine (takesIfTrue_keyword _).bind ?_
  exact takes_expected _

theorem takes_body (inner : Inner) (strength : Nat) : Takes (body inner strength) :=
  (takes_bareBody inner).bind

theorem takes_query (inner : Inner) : Takes (query inner) := by
  refine Takes.deeper (takes_bind fun tables => ?_)
  refine (takesIfTrue_keyword _).bind ?_
  refine (takesIfTrue_keyword _).bind ?_
  exact (takes_body inner 0).bind

theorem takes_rules_query (level : Nat) : Takes (rules level).query := by
  cases level with
  | zero => exact takes_fail _
  | succ level => exact takes_delayed (fun _ => query _) (takes_query (rules level))

/-! ### Statements -/

theorem takes_statement {inner : Inner} (takes : Takes inner.query) :
    Takes (statement inner) := by
  refine Takes.deeper (takes_bind fun seen => ?_)
  split
  · exact takes.bind
  · exact takes_next_bind (takes_expectedAt _ _)

theorem takes_rules_statement (level : Nat) : Takes (rules level).statement := by
  cases level with
  | zero => exact takes_fail _
  | succ level =>
    exact takes_delayed (fun _ => statement _) (takes_statement (takes_rules_query level))

end Grammar

end SqlImage.Sql
