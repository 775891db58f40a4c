/-
This file says where the clauses of a query stand in a text. The named queries, the
body and the keys of the sort are read from tokens that follow each other, and that
is how they are visited. The limit and the offset come next, in the order of the text:
the limit is visited first, so the visit follows the tokens where the limit is written
first, and it goes against them where the offset is, behind its word or in front of a
comma.
-/

import SqlImage.Proofs.Numbered
import SqlImage.Proofs.Progress

namespace SqlImage.Sql

open SqlImage.Sql.Parser

namespace Parser

/-! ### Values in a stretch of tokens -/

section Stretch

variable {α : Type} {parser : Parser α} {room : Nat} {value : α}
  {begins : Token → Prop} {tokens rest : List Located}

/-- A parser gives a value between two places: its first token stands behind one that begins a
clause, and its last one before the tokens that are left. -/
def Behind {α : Type} (parser : Parser α) (room : Nat) (begins : Token → Prop) (value : α)
    (tokens rest : List Located) : Prop :=
  ∃ head start stop, head :: start <:+ tokens ∧ begins head.token ∧
    parser.run room start = .ok value stop ∧ rest <:+ stop

theorem Behind.mono {earlier later : List Located}
    (behind : Behind parser room begins value tokens rest) (before : tokens <:+ earlier)
    (after : later <:+ rest) :
    Behind parser room begins value earlier later := by
  obtain ⟨head, start, stop, starts, begun, read, stops⟩ := behind
  exact ⟨head, start, stop, starts.trans before, begun, read, after.trans stops⟩

theorem run_suffix (done : parser.run room tokens = .ok value rest) : rest <:+ tokens := by
  have suffix := parser.rest_suffix room tokens
  rw [done] at suffix
  exact suffix

theorem run_keyword_true {word : Keyword} (done : (keyword word).run room tokens = .ok true rest) :
    ∃ head, tokens = head :: rest ∧ head.token.keyword? = some word := by
  obtain ⟨first, between, found, same⟩ := run_bind_eq_ok.mp done
  cases first with
  | none => cases same
  | some first =>
    cases same
    obtain ⟨head, rfl, passed⟩ := accept_some found
    refine ⟨head, rfl, ?_⟩
    split at passed
    · assumption
    · cases passed

/-- A keyword that is not next leaves the tokens as they are. -/
theorem run_keyword_false {word : Keyword}
    (done : (keyword word).run room tokens = .ok false rest) : rest = tokens := by
  obtain ⟨first, between, found, same⟩ := run_bind_eq_ok.mp done
  cases first with
  | some first => cases same
  | none =>
    cases same
    exact (accept_none found).1

end Stretch

end Parser

namespace Grammar

/-! ### Limits and offsets -/

/-- A word begins a clause. -/
def IsWord (word : Keyword) (token : Token) : Prop := token.keyword? = some word

/-- How a limit and an offset are read from a stretch of tokens. If both are written, either may
come first, each behind its word. Of two numbers with a comma between them, the first one is the
offset. -/
inductive ReadsBounds (inner : Inner) (room : Nat) (tokens rest : List Located) :
    (limit offset : Option Expr) → Prop where
  | neither (left : rest <:+ tokens) : ReadsBounds inner room tokens rest none none
  | limit {limit : Expr} (read : Behind inner.expr room (IsWord .LIMIT) limit tokens rest) :
      ReadsBounds inner room tokens rest (some limit) none
  | offset {offset : Expr} (read : Behind inner.expr room (IsWord .OFFSET) offset tokens rest) :
      ReadsBounds inner room tokens rest none (some offset)
  | limitFirst {limit offset : Expr} {between : List Located}
      (limitRead : Behind inner.expr room (IsWord .LIMIT) limit tokens between)
      (offsetRead : Behind inner.expr room (IsWord .OFFSET) offset between rest) :
      ReadsBounds inner room tokens rest (some limit) (some offset)
  | offsetFirst {limit offset : Expr} {between : List Located}
      (offsetRead : Behind inner.expr room (IsWord .OFFSET) offset tokens between)
      (limitRead : Behind inner.expr room (IsWord .LIMIT) limit between rest) :
      ReadsBounds inner room tokens rest (some limit) (some offset)
  | comma {limit offset : Expr} {between : List Located}
      (offsetRead : Behind inner.expr room (IsWord .LIMIT) offset tokens between)
      (limitRead : Behind inner.expr room (· = .symbol .comma) limit between rest) :
      ReadsBounds inner room tokens rest (some limit) (some offset)

section Bounds

variable {inner : Inner} {room : Nat} {tokens between rest : List Located}
  {limit offset : Option Expr}

theorem ReadsBounds.mono (reads : ReadsBounds inner room tokens between limit offset)
    (left : rest <:+ between) : ReadsBounds inner room tokens rest limit offset := by
  have same : tokens <:+ tokens := tokens.suffix_refl
  cases reads with
  | neither before => exact .neither (left.trans before)
  | limit read => exact .limit (read.mono same left)
  | offset read => exact .offset (read.mono same left)
  | limitFirst limitRead offsetRead =>
    exact .limitFirst limitRead (offsetRead.mono (List.suffix_refl _) left)
  | offsetFirst offsetRead limitRead =>
    exact .offsetFirst offsetRead (limitRead.mono (List.suffix_refl _) left)
  | comma offsetRead limitRead =>
    exact .comma offsetRead (limitRead.mono (List.suffix_refl _) left)

theorem ReadsBounds.andLimit {value : Expr}
    (reads : ReadsBounds inner room tokens between none offset)
    (read : Behind inner.expr room (IsWord .LIMIT) value between rest) :
    ReadsBounds inner room tokens rest (some value) offset := by
  cases reads with
  | neither before => exact .limit (read.mono before (List.suffix_refl _))
  | offset offsetRead => exact .offsetFirst offsetRead read

theorem ReadsBounds.andOffset {value : Expr}
    (reads : ReadsBounds inner room tokens between limit none)
    (read : Behind inner.expr room (IsWord .OFFSET) value between rest) :
    ReadsBounds inner room tokens rest limit (some value) := by
  cases reads with
  | neither before => exact .offset (read.mono before (List.suffix_refl _))
  | limit limitRead => exact .limitFirst limitRead read

theorem ReadsBounds.andComma {first second : Expr}
    (reads : ReadsBounds inner room tokens between (some first) none)
    (read : Behind inner.expr room (· = .symbol .comma) second between rest) :
    ReadsBounds inner room tokens rest (some second) (some first) := by
  cases reads with
  | limit limitRead => exact .comma limitRead read

/-- The end of a round: a comma behind a limit makes it the offset. -/
def commaRound (inner : Inner) (limit : Option Expr) (offset : Option (Expr × RowsWord)) :
    Parser RowBounds := do
  match limit, offset with
  | some first, none =>
    if ← symbol .comma then return ⟨some (← inner.expr), some (first, .unmarked)⟩
    return ⟨limit, offset⟩
  | _, _ => return ⟨limit, offset⟩

/-- A round from the offset on. -/
def offsetRound (inner : Inner) (known : Option (Expr × RowsWord)) (limit : Option Expr) :
    Parser RowBounds := do
  let offset ← do
    if known.isNone then
      given (keyword .OFFSET) do
        let value ← inner.expr
        return (value, ← rowsWord)
    else pure known
  commaRound inner limit offset

theorem readsBounds_comma {found : Option (Expr × RowsWord)} {after : RowBounds}
    (reads : ReadsBounds inner room tokens between limit (found.map Prod.fst))
    (done : (commaRound inner limit found).run room between = .ok after rest) :
    ReadsBounds inner room tokens rest after.limit (after.offset.map Prod.fst) := by
  unfold commaRound at done
  split at done
  · obtain ⟨marked, afterComma, tested, onward⟩ := run_bind_eq_ok.mp done
    cases marked with
    | true =>
      obtain ⟨head, rfl, isComma⟩ := run_symbol_true tested
      obtain ⟨second, afterSecond, read, same⟩ := run_bind_eq_ok.mp onward
      cases same
      exact reads.andComma ⟨head, afterComma, rest, List.suffix_refl _, isComma, read,
        List.suffix_refl _⟩
    | false =>
      cases onward
      exact reads.mono (run_suffix tested)
  · cases done
    exact reads

theorem readsBounds_offset {known : Option (Expr × RowsWord)} {after : RowBounds}
    (reads : ReadsBounds inner room tokens between limit (known.map Prod.fst))
    (done : (offsetRound inner known limit).run room between = .ok after rest) :
    ReadsBounds inner room tokens rest after.limit (after.offset.map Prod.fst) := by
  unfold offsetRound at done
  cases known with
  | some offset =>
    obtain ⟨_, _, same, onward⟩ := run_bind_eq_ok.mp done
    cases same
    exact readsBounds_comma reads onward
  | none =>
    obtain ⟨offset, afterOffset, found, onward⟩ := run_bind_eq_ok.mp done
    refine readsBounds_comma ?_ onward
    obtain ⟨marked, afterWord, tested, valueNext⟩ := run_bind_eq_ok.mp found
    cases marked with
    | true =>
      obtain ⟨head, rfl, isOffset⟩ := run_keyword_true tested
      obtain ⟨_, _, valueRead, same⟩ := run_bind_eq_ok.mp valueNext
      cases same
      obtain ⟨value, afterValue, read, wordNext⟩ := run_bind_eq_ok.mp valueRead
      obtain ⟨word, _, wordRead, same⟩ := run_bind_eq_ok.mp wordNext
      cases same
      exact reads.andOffset ⟨head, afterWord, afterValue, List.suffix_refl _, isOffset, read,
        run_suffix wordRead⟩
    | false =>
      cases valueNext
      exact reads.mono (run_suffix tested)

/-- A round goes on with what was read before it. -/
theorem readsBounds_round {before after : RowBounds}
    (reads : ReadsBounds inner room tokens between before.limit (before.offset.map Prod.fst))
    (done : (boundsRound inner before).run room between = .ok after rest) :
    ReadsBounds inner room tokens rest after.limit (after.offset.map Prod.fst) := by
  obtain ⟨known, offset⟩ := before
  cases known with
  | some limit =>
    obtain ⟨_, _, same, onward⟩ := run_bind_eq_ok.mp done
    cases same
    exact readsBounds_offset reads onward
  | none =>
    obtain ⟨marked, afterWord, tested, wordNext⟩ := run_bind_eq_ok.mp done
    cases marked with
    | false =>
      obtain ⟨_, _, same, onward⟩ := run_bind_eq_ok.mp wordNext
      cases same
      exact readsBounds_offset (reads.mono (run_suffix tested)) onward
    | true =>
      obtain ⟨head, rfl, isLimit⟩ := run_keyword_true tested
      obtain ⟨all, afterAll, allTested, allNext⟩ := run_bind_eq_ok.mp wordNext
      cases all with
      | true =>
        obtain ⟨_, _, same, onward⟩ := run_bind_eq_ok.mp allNext
        cases same
        have left : afterAll <:+ head :: afterWord :=
          (run_suffix allTested).trans (List.suffix_cons head afterWord)
        exact readsBounds_offset (reads.mono left) onward
      | false =>
        cases run_keyword_false allTested
        obtain ⟨value, afterValue, read, valueNext⟩ := run_bind_eq_ok.mp allNext
        obtain ⟨_, _, same, onward⟩ := run_bind_eq_ok.mp valueNext
        cases same
        have limitReads := reads.andLimit ⟨head, afterWord, afterValue, List.suffix_refl _, isLimit,
          read, List.suffix_refl _⟩
        exact readsBounds_offset limitReads onward

end Bounds

/-! ### Queries -/

section Queries

variable {inner : Inner} {room : Nat} {tokens rest : List Located} {query : Query}

/-- The parts of a query stand one behind the other in its text: the named queries, the body, the
keys of the sort, and last the limit and the offset. -/
structure ReadsClauses (inner : Inner) (room : Nat) (tokens rest : List Located) (query : Query)
    (bodyStart orderStart boundsStart boundsEnd : List Located) : Prop where
  tables : (withClause inner).run room tokens = .ok query.withClause bodyStart
  body : (Grammar.body inner 0).run room bodyStart = .ok query.body orderStart
  order : inner.orderBy.run room orderStart = .ok query.order boundsStart
  bounds : ReadsBounds inner room boundsStart boundsEnd query.limit query.offset
  left : rest <:+ boundsEnd

theorem plainQuery_reads {tables : Option With}
    (done : (plainQuery inner tables).run room tokens = .ok query rest) :
    query.withClause = tables ∧ ∃ orderStart boundsStart boundsEnd,
      (body inner 0).run room tokens = .ok query.body orderStart ∧
      inner.orderBy.run room orderStart = .ok query.order boundsStart ∧
      ReadsBounds inner room boundsStart boundsEnd query.limit query.offset ∧
      rest <:+ boundsEnd := by
  obtain ⟨queryBody, orderStart, bodyRead, onward⟩ := run_bind_eq_ok.mp done
  obtain ⟨order, boundsStart, orderRead, onward⟩ := run_bind_eq_ok.mp onward
  obtain ⟨first, between, firstRound, onward⟩ := run_bind_eq_ok.mp onward
  obtain ⟨bounds, boundsEnd, secondRound, onward⟩ := run_bind_eq_ok.mp onward
  obtain ⟨limitBy, afterLimitBy, limitByRead, onward⟩ := run_bind_eq_ok.mp onward
  obtain ⟨fetched, afterFetch, fetchRead, onward⟩ := run_bind_eq_ok.mp onward
  obtain ⟨locked, afterLocks, locksRead, same⟩ := run_bind_eq_ok.mp onward
  cases same
  have left := (run_suffix locksRead).trans ((run_suffix fetchRead).trans (run_suffix limitByRead))
  have reads := readsBounds_round (readsBounds_round (.neither (List.suffix_refl _)) firstRound)
    secondRound
  exact ⟨rfl, orderStart, boundsStart, boundsEnd, bodyRead, orderRead, reads, left⟩

/-- A query is read clause by clause, unless it is a statement in place of one. -/
theorem query_reads (done : (Grammar.query inner).run (room + 1) tokens = .ok query rest) :
    (∃ tables pieces, query = statementQuery tables pieces) ∨
      ∃ bodyStart orderStart boundsStart boundsEnd,
        ReadsClauses inner room tokens rest query bodyStart orderStart boundsStart boundsEnd := by
  obtain ⟨tables, bodyStart, tablesRead, insertNext⟩ := run_bind_eq_ok.mp done
  obtain ⟨inserts, afterInsert, insertTested, insertNext⟩ := run_bind_eq_ok.mp insertNext
  cases inserts with
  | true =>
    obtain ⟨made, _, _, same⟩ := run_bind_eq_ok.mp insertNext
    cases same
    exact .inl ⟨tables, _, rfl⟩
  | false =>
    obtain ⟨updates, afterUpdate, updateTested, updateNext⟩ := run_bind_eq_ok.mp insertNext
    cases updates with
    | true =>
      obtain ⟨made, _, _, same⟩ := run_bind_eq_ok.mp updateNext
      cases same
      exact .inl ⟨tables, _, rfl⟩
    | false =>
      cases run_keyword_false insertTested
      cases run_keyword_false updateTested
      obtain ⟨rfl, orderStart, boundsStart, boundsEnd, bodyRead, orderRead, reads, left⟩ :=
        plainQuery_reads updateNext
      exact .inr ⟨bodyStart, orderStart, boundsStart, boundsEnd, tablesRead, bodyRead, orderRead,
        reads, left⟩

end Queries

end Grammar

/-! ### The visit -/

open Lowering

/-- A part of a query is visited when so many placeholders were counted before, and its parameters
have the numbers from there up to the one that is left. -/
def NumbersUpTo {α : Type} (run : Lowering α) (parameters : α → List Int64)
    (before after : Nat) : Prop :=
  ∃ made count, run before = .ok (made, after) ∧ after = before + count ∧
    (parameters made).Perm (numbers before count)

theorem numbersUpTo_of_adds {α : Type} {run : Lowering α} {parameters : α → List Int64}
    {count before after : Nat} {made : α} (adds : Adds [] run parameters count)
    (done : run before = .ok (made, after)) : NumbersUpTo run parameters before after :=
  ⟨made, count, done, adds before made after done⟩

/-- The parts of a query are visited one behind the other: the named queries, the body, the keys of
the sort, the limit, and last the offset. -/
structure VisitsClauses (query : Query)
    (before bodyBefore keysBefore limitBefore offsetBefore after : Nat) : Prop where
  tables : NumbersUpTo (lowerWith query.withClause) Tree.optionalWithsParameters before bodyBefore
  body : NumbersUpTo query.body.lower Tree.Select.parameters bodyBefore keysBefore
  order : NumbersUpTo (lowerOrder query.order) Tree.ordersParameters keysBefore limitBefore
  limit : NumbersUpTo (lowerOption query.limit) Tree.optionalExprParameters limitBefore offsetBefore
  offset : NumbersUpTo (lowerOption query.offset) Tree.optionalExprParameters offsetBefore after

theorem Query.visits_lower {query : Query} {before after : Nat} {tree : Tree.Select}
    (lowered : query.lower before = .ok (tree, after)) :
    ∃ bodyBefore keysBefore limitBefore offsetBefore,
      VisitsClauses query before bodyBefore keysBefore limitBefore offsetBefore after := by
  obtain ⟨tables, inner, middle, keys, limit, offset, bodyBefore, keysBefore, limitBefore,
    offsetBefore, tablesMade, innerMade, -, keysMade, limitMade, offsetMade, -⟩ :=
    lower_eq_ok lowered
  exact ⟨bodyBefore, keysBefore, limitBefore, offsetBefore,
    numbersUpTo_of_adds (adds_lowerWith _) tablesMade,
    numbersUpTo_of_adds query.body.adds_lower innerMade,
    numbersUpTo_of_adds (adds_lowerOrder _) keysMade,
    numbersUpTo_of_adds (adds_lowerOption _) limitMade,
    numbersUpTo_of_adds (adds_lowerOption _) offsetMade⟩

/-- The parts of a query that has a tree are visited in the order in which they stand in its text.
Only of the limit and the offset the limit is visited first wherever it stands. -/
theorem Query.visits_read {inner : Inner} {room : Nat} {tokens rest : List Located} {query : Query}
    (read : (Grammar.query inner).run (room + 1) tokens = .ok query rest)
    {before after : Nat} {tree : Tree.Select} (lowered : query.lower before = .ok (tree, after)) :
    ∃ bodyStart orderStart boundsStart boundsEnd,
      Grammar.ReadsClauses inner room tokens rest query bodyStart orderStart boundsStart boundsEnd ∧
      ∃ bodyBefore keysBefore limitBefore offsetBefore,
        VisitsClauses query before bodyBefore keysBefore limitBefore offsetBefore after := by
  have visits := visits_lower lowered
  obtain ⟨tables, pieces, rfl⟩ | ⟨bodyStart, orderStart, boundsStart, boundsEnd, reads⟩ :=
    Grammar.query_reads read
  · obtain ⟨_, _, _, _, _, ⟨_, _, refused, -⟩, -, -, -⟩ := visits
    rw [Grammar.statementQuery, Body.lower] at refused
    cases refused
  · exact ⟨bodyStart, orderStart, boundsStart, boundsEnd, reads, visits⟩

end SqlImage.Sql
