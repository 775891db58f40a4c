/-
This file says where the statements of a text stand. The parser gives statements
without their places, and the semicolons give places without statements; they are
put together if there are equally many. A statement begins where nothing but
semicolons and blanks come between the one before it and itself, so each begins a
group of tokens of its own. If there are no more groups than statements, no
statement can hold the beginning of another group, so each has all of its own.
-/

import Mathlib.Data.List.TakeWhile
import SqlImage.Parse
import SqlImage.Proofs.Outcome
import SqlImage.Proofs.Reading

namespace SqlImage

namespace Sql

/-! ### Groups of tokens that are no blanks -/

section Solid

variable {separator head : Placed} {placed before behind block rest : List Placed}

theorem tokenGroups_append (separates : separator.isSeparator = true) :
    tokenGroups (before ++ separator :: behind) = tokenGroups before ++ tokenGroups behind := by
  have parts : stretches (before ++ separator :: behind) =
      stretches before ++ stretches behind := by
    rw [stretches, List.splitOnP_append_cons _ _ separates, List.map_append]
    rfl
  rw [tokenGroups, parts, List.filter_append]
  rfl

theorem tokenGroups_cons (separates : separator.isSeparator = true) :
    tokenGroups (separator :: behind) = tokenGroups behind :=
  @tokenGroups_append separator [] behind separates

theorem stretches_filter (placed : List Placed) :
    stretches (placed.filter (·.token ≠ .blank)) = stretches placed := by
  induction placed with
  | nil => rfl
  | cons head tail inductionHypothesis =>
    by_cases blank : head.token = .blank
    · rw [List.filter_cons_of_neg (by simpa using blank), stretches_cons_of_blank blank,
        inductionHypothesis]
    · rw [List.filter_cons_of_pos (by simpa using blank)]
      rcases head.kind with separates | isBlank | significant
      · rw [stretches_cons_of_separator separates, stretches_cons_of_separator separates,
          inductionHypothesis]
      · exact absurd isBlank blank
      · rw [stretches_cons_of_significant significant, stretches_cons_of_significant significant,
          inductionHypothesis]

theorem stretches_of_significant (significant : ∀ token ∈ block, token.isSignificant = true) :
    stretches block = [block] := by
  induction block with
  | nil => rfl
  | cons head tail inductionHypothesis =>
    obtain ⟨here, further⟩ := List.forall_mem_cons.mp significant
    rw [stretches_cons_of_significant here, inductionHypothesis further]
    rfl

/-- Tokens that are no blanks have no group only if they are semicolons. -/
theorem isSeparator_of_tokenGroups (solid : ∀ token ∈ placed, token.token ≠ .blank)
    (none : tokenGroups placed = []) : ∀ token ∈ placed, token.isSeparator = true := by
  intro token member
  rcases token.kind with separates | blank | significant
  · exact separates
  · exact absurd blank (solid token member)
  · obtain ⟨stretch, inside, found⟩ := exists_mem_stretches member significant
    have group : stretch ∈ tokenGroups placed :=
      mem_tokenGroups.mpr ⟨inside, List.ne_nil_of_mem found⟩
    rw [none] at group
    cases group

theorem tokenGroups_of_significant {others : List Placed}
    (significant : ∀ token ∈ head :: others, token.isSignificant = true) :
    tokenGroups (head :: others) = [head :: others] := by
  rw [tokenGroups, stretches_of_significant significant]
  rfl

/-- Tokens that do not begin with a semicolon begin with a group, and the other groups are those of
the tokens behind it, which are semicolons if there are none. -/
theorem exists_first_group (solid : ∀ token ∈ head :: rest, token.token ≠ .blank)
    (begins : head.isSeparator = false) :
    ∃ others after, head :: rest = (head :: others) ++ after ∧
      tokenGroups (head :: rest) = (head :: others) :: tokenGroups after ∧
      (tokenGroups after = [] → ∀ token ∈ after, token.isSeparator = true) := by
  have parts : head :: rest = (head :: rest.takeWhile (!·.isSeparator)) ++
      rest.dropWhile (!·.isSeparator) := by
    rw [List.cons_append, List.takeWhile_append_dropWhile]
  have stopped := List.head?_dropWhile_not (!·.isSeparator) rest
  have significant : ∀ token ∈ head :: rest.takeWhile (!·.isSeparator),
      token.isSignificant = true := by
    intro token member
    have inside : token ∈ head :: rest :=
      List.cons_subset_cons head (List.takeWhile_subset _) member
    have noSeparator : token.isSeparator = false := by
      rcases List.mem_cons.mp member with rfl | later
      · exact begins
      · have passed := List.mem_takeWhile_imp later
        rwa [Bool.not_eq_true'] at passed
    simp [Placed.isSignificant, noSeparator, solid token inside]
  refine ⟨_, _, parts, ?_, isSeparator_of_tokenGroups fun token member => solid token ?_⟩
  · cases behind : rest.dropWhile (!·.isSeparator) with
    | nil =>
      rw [parts, behind, List.append_nil, tokenGroups_of_significant significant]
      rfl
    | cons separator others =>
      have separates : separator.isSeparator = true := by
        rw [behind] at stopped
        exact (Bool.not_eq_false' ..).mp stopped
      rw [parts, behind, tokenGroups_append separates, tokenGroups_cons separates,
        tokenGroups_of_significant significant, List.singleton_append]
  · exact parts ▸ List.mem_append_right _ member

end Solid

/-! ### Blocks and groups -/

/-- A group of tokens is what a statement takes, without the semicolons at its end. Behind a
statement that the word `END` follows, the group goes on with this word. -/
def Belongs (block group : List Placed) : Prop :=
  (∃ separators, block = group ++ separators ∧
    ∀ separator ∈ separators, separator.isSeparator = true) ∨
  ∃ ending others, group = block ++ ending :: others ∧ ending.token.keyword? = some .END

section Fitting

variable {parser : Parser Statement} {room : Nat} {solid : List Placed}
  {statements : List Statement} {blocks : List (List Placed)}

/-- The last statement belongs to the last group, whichever of the two is the longer one. -/
theorem belongs_last {block rest group after : List Placed} (parts : block ++ rest = group ++ after)
    (separators : ∀ token ∈ after, token.isSeparator = true)
    (ended : ∀ ending ∈ rest.head?, ending.token.keyword? = some .END) : Belongs block group := by
  rcases List.append_eq_append_iff.mp parts with ⟨more, groupEq, restEq⟩ | ⟨more, blockEq, rfl⟩
  · cases more with
    | nil =>
      refine .inl ⟨[], ?_, List.forall_mem_nil _⟩
      rw [groupEq, List.append_nil, List.append_nil]
    | cons ending further =>
      exact .inr ⟨ending, further, groupEq, ended ending (by rw [restEq]; rfl)⟩
  · exact .inl ⟨more, blockEq, fun token member =>
      separators token (List.mem_append_left _ member)⟩

/-- Every statement has a group at least, and if there are no others, they belong together. -/
theorem Grammar.Reads.belongs (reads : Grammar.Reads parser room solid statements blocks)
    (noBlank : ∀ token ∈ solid, token.token ≠ .blank) :
    blocks.length ≤ (tokenGroups solid).length ∧
      (blocks.length = (tokenGroups solid).length →
        List.Forall₂ Belongs blocks (tokenGroups solid)) := by
  induction reads with
  | nothing => exact ⟨Nat.le_refl 0, fun _ => .nil⟩
  | separator separates further inductionHypothesis =>
    rw [tokenGroups_cons separates]
    exact inductionHypothesis (List.forall_mem_cons.mp noBlank).2
  | @last head taken rest statement begins read ended =>
    rw [List.cons_append] at noBlank ⊢
    obtain ⟨others, after, parts, groups, separators⟩ := exists_first_group noBlank begins
    rw [groups]
    refine ⟨Nat.le_add_left 1 _, fun same => ?_⟩
    have none : tokenGroups after = [] := List.length_eq_zero_iff.mp (Nat.succ.inj same).symm
    rw [none]
    exact .cons (belongs_last parts (separators none) ended) .nil
  | @statement head separator taken tail statement statements blocks begins read separates further
      inductionHypothesis =>
    obtain ⟨ownNoBlank, behindNoBlank⟩ := List.forall_mem_append.mp noBlank
    obtain ⟨others, after, parts, groups, separators⟩ := exists_first_group ownNoBlank begins
    obtain ⟨fewer, belong⟩ := inductionHypothesis (List.forall_mem_cons.mp behindNoBlank).2
    rw [tokenGroups_append separates, groups, List.cons_append, List.length_cons,
      List.length_cons, List.length_append]
    refine ⟨by omega, fun same => ?_⟩
    have none : tokenGroups after = [] := List.length_eq_zero_iff.mp (by omega)
    rw [none, List.length_nil, Nat.zero_add] at same
    rw [none, List.nil_append]
    exact .cons (.inl ⟨after, parts, separators none⟩) (belong (Nat.succ.inj same))

theorem Grammar.Reads.ne_nil (reads : Grammar.Reads parser room solid statements blocks) :
    ∀ block ∈ blocks, block ≠ [] := by
  induction reads with
  | nothing => exact List.forall_mem_nil _
  | separator _ _ inductionHypothesis => exact inductionHypothesis
  | last => exact List.forall_mem_singleton.mpr (List.cons_ne_nil _ _)
  | statement _ _ _ _ inductionHypothesis =>
    exact List.forall_mem_cons.mpr ⟨List.cons_ne_nil _ _, inductionHypothesis⟩

end Fitting

/-! ### Spans of statements -/

/-- A span begins with the first token that a statement takes, and ends with the last token before
the semicolon, or the end of the text, behind the statement. -/
def Span.Locates (text : List Char) (placed : List Placed) (span : Span) (block : List Placed) :
    Prop :=
  ∃ first group last, block.head? = some first ∧ group ∈ tokenGroups placed ∧
    Belongs block group ∧ group.getLast? = some last ∧ span.start = first.start ∧
    span.start + span.length = last.stop ∧ span.position = .after (text.take first.start)

section Locates

variable {text : List Char} {placed block group : List Placed} {span : Span}

theorem Span.Covers.locates (covers : span.Covers text group) (member : group ∈ tokenGroups placed)
    (belongs : Belongs block group) (some : block ≠ []) : span.Locates text placed block := by
  obtain ⟨first, last, firstEq, lastEq, startEq, stopEq, positionEq⟩ := covers
  have beginEq : block.head? = .some first := by
    rcases belongs with ⟨separators, rfl, -⟩ | ⟨ending, others, rfl, -⟩
    · rw [List.head?_append, firstEq]
      rfl
    · rwa [List.head?_append_of_ne_nil _ some] at firstEq
  exact ⟨first, group, last, beginEq, member, belongs, lastEq, startEq, stopEq,
    startEq ▸ positionEq⟩

theorem locates_of_covers {spans : List Span} {blocks groups : List (List Placed)}
    (covers : List.Forall₂ (Span.Covers text) spans groups)
    (belong : List.Forall₂ Belongs blocks groups) (some : ∀ block ∈ blocks, block ≠ [])
    (members : ∀ group ∈ groups, group ∈ tokenGroups placed) :
    List.Forall₂ (Span.Locates text placed) spans blocks := by
  induction covers generalizing blocks with
  | nil =>
    cases belong
    exact .nil
  | cons here further inductionHypothesis =>
    cases belong with
    | cons belongs others =>
      obtain ⟨someHere, someFurther⟩ := List.forall_mem_cons.mp some
      obtain ⟨member, memberFurther⟩ := List.forall_mem_cons.mp members
      exact .cons (here.locates member belongs someHere)
        (inductionHypothesis others someFurther memberFurther)

end Locates

end Sql

/-! ### Answers -/

open SqlImage.Tree

/-- What becomes of statements at given places, each with its length and its position: every
statement gets its tree and the length of its place, or the first one without a tree is blamed at
its position. -/
structure Answers (result : ParseResult) (statements : List Sql.Statement)
    (places : List (Nat × Position)) : Prop where
  count : places.length = statements.length
  valid : ∀ trees, result = .valid trees →
    List.Forall₂ (fun located tree => ∃ lowered, located.1.lower = .ok lowered ∧
      tree = lowered.withLength (UInt64.ofNat located.2.1)) (statements.zip places) trees
  invalid : ∀ error, result = .invalid error →
    ∃ before statement behind length position cause,
      statements.zip places = before ++ (statement, length, position) :: behind ∧
      (∀ located ∈ before, ∃ lowered, located.1.lower = .ok lowered) ∧
      statement.lower = .error cause ∧
      error = ⟨"Unsupported construct: " ++ cause.message, Int32.ofNat position.line,
        Int32.ofNat position.column⟩

/-- The place that a span gives, and the one that is given without a span. -/
def placeOf (span : Option Sql.Span) : Nat × Position :=
  ((span.map Sql.Span.length).getD 0, (span.map Sql.Span.position).getD .start)

/-- The places that statements are given. -/
def placesOf : List Sql.Statement → List Sql.Span → List (Nat × Position)
  | [], _ => []
  | _ :: rest, spans => placeOf spans.head? :: placesOf rest spans.tail

section Answers

variable {statements : List Sql.Statement} {spans : List Sql.Span}

theorem placesOf_of_length (same : spans.length = statements.length) :
    placesOf statements spans = spans.map fun span => (span.length, span.position) := by
  induction statements generalizing spans with
  | nil =>
    cases List.length_eq_zero_iff.mp same
    rfl
  | cons statement rest inductionHypothesis =>
    cases spans with
    | nil => cases same
    | cons span others =>
      rw [placesOf, List.tail_cons, inductionHypothesis (Nat.succ.inj same)]
      rfl

theorem placesOf_nil : placesOf statements [] = List.replicate statements.length (0, .start) := by
  induction statements with
  | nil => rfl
  | cons statement rest inductionHypothesis =>
    rw [placesOf, List.tail_nil, inductionHypothesis]
    rfl

theorem length_placesOf : (placesOf statements spans).length = statements.length := by
  induction statements generalizing spans with
  | nil => rfl
  | cons statement rest inductionHypothesis =>
    rw [placesOf, List.length_cons, inductionHypothesis, List.length_cons]

theorem lowerStatements_eq_ok {trees : List Statement}
    (lowered : lowerStatements statements spans = .ok trees) :
    List.Forall₂ (fun located tree => ∃ lowered, located.1.lower = .ok lowered ∧
      tree = lowered.withLength (UInt64.ofNat located.2.1))
        (statements.zip (placesOf statements spans)) trees := by
  induction statements generalizing spans trees with
  | nil =>
    cases lowered
    exact .nil
  | cons statement rest inductionHypothesis =>
    simp only [lowerStatements, bind_eq_ok, pure_eq_ok] at lowered
    obtain ⟨tree, treeMade, others, othersMade, rfl⟩ := lowered
    cases made : statement.lower with
    | error cause =>
      rw [made] at treeMade
      cases treeMade
    | ok found =>
      rw [made] at treeMade
      cases treeMade
      exact .cons ⟨tree, made, rfl⟩ (inductionHypothesis othersMade)

theorem lowerStatements_eq_error {cause : Unsupported} {position : Position}
    (lowered : lowerStatements statements spans = .error (cause, position)) :
    ∃ before statement behind length,
      statements.zip (placesOf statements spans) =
        before ++ (statement, length, position) :: behind ∧
      (∀ located ∈ before, ∃ tree, located.1.lower = .ok tree) ∧
      statement.lower = .error cause := by
  induction statements generalizing spans with
  | nil => cases lowered
  | cons statement rest inductionHypothesis =>
    cases made : statement.lower with
    | error found =>
      simp only [lowerStatements, made] at lowered
      cases lowered
      exact ⟨[], statement, _, _, rfl, List.forall_mem_nil _, made⟩
    | ok tree =>
      cases further : lowerStatements rest spans.tail with
      | ok others =>
        simp only [lowerStatements, made, further] at lowered
        cases lowered
      | error failed =>
        simp only [lowerStatements, made, further] at lowered
        cases lowered
        obtain ⟨before, failing, behind, length, parts, earlier, refused⟩ :=
          inductionHypothesis further
        refine ⟨(statement, placeOf spans.head?) :: before, failing, behind, length, ?_,
          List.forall_mem_cons.mpr ⟨⟨tree, made⟩, earlier⟩, refused⟩
        rw [placesOf, List.zip_cons_cons, parts, List.cons_append]

/-- A text that can be parsed is answered by its statements at the places that its spans give. -/
theorem answers_parse {options : Options} {text : List Char}
    (parsed : Sql.parseText options.recursionLimit.toNat text = .ok statements) :
    Answers (parse options text) statements
      (placesOf statements (spansOf text statements.length)) := by
  refine ⟨length_placesOf, fun trees same => ?_, fun error same => ?_⟩
  · rw [parse, parsed] at same
    dsimp only at same
    split at same
    · cases same
    · rename_i made
      cases same
      exact lowerStatements_eq_ok made
  · rw [parse, parsed] at same
    dsimp only at same
    split at same
    · rename_i cause position made
      cases same
      obtain ⟨before, statement, behind, length, parts, earlier, refused⟩ :=
        lowerStatements_eq_error made
      exact ⟨before, statement, behind, length, position, cause, parts, earlier, refused, rfl⟩
    · cases same

end Answers

/-- The parser of a statement where a number of tokens are read. -/
def Sql.statementParser (count : Nat) : Sql.Parser Sql.Statement :=
  (Sql.Grammar.rules (2 * count + 8)).statement

/-- How the tokens of a text are read as statements. -/
theorem Sql.reads_parseText {room : Nat} {text : List Char} {statements : List Statement}
    (parsed : parseText room text = .ok statements) :
    ∃ placed blocks, tokenize text = .ok (placed.map Placed.located) ∧ Fills [] placed text ∧
      Grammar.Reads (statementParser (placed.filter (·.token ≠ .blank)).length) room
        (placed.filter (·.token ≠ .blank)) statements blocks := by
  rw [parseText] at parsed
  obtain ⟨tokens, lexed, grammatical⟩ := bind_eq_ok.mp parsed
  have read := mapError_eq_ok.mp lexed
  have done := mapError_eq_ok.mp grammatical
  obtain ⟨placed, fills, rfl⟩ := fills_tokenize read
  have solidEq : (placed.map Placed.located).filter (·.token ≠ .blank) =
      (placed.filter (·.token ≠ .blank)).map Placed.located := List.filter_map
  simp only [parseTokens, solidEq, List.length_map] at done
  split at done
  · rename_i rest run
    cases done
    obtain ⟨blocks, reads⟩ := Grammar.reads_statements (Grammar.takes_rules_statement _) run
    refine ⟨placed, blocks, read, fills, ?_⟩
    rw [statementParser]
    exact reads
  · cases done

/-- If a text has as many groups of tokens between semicolons as the parser finds statements, every
statement is answered at its place: from its first token to the last one before the semicolon, or
the end of the text, behind it. Otherwise no statement has a length, and the start of the text is
blamed. -/
theorem parse_places {options : Options} {text : List Char} {statements : List Sql.Statement}
    (parsed : Sql.parseText options.recursionLimit.toNat text = .ok statements) :
    ∃ placed blocks spans, Sql.tokenize text = .ok (placed.map Sql.Placed.located) ∧
      Sql.Fills [] placed text ∧ Sql.split text = .ok spans ∧
      Sql.Grammar.Reads (Sql.statementParser (placed.filter (·.token ≠ .blank)).length)
        options.recursionLimit.toNat (placed.filter (·.token ≠ .blank)) statements blocks ∧
      spans.length = (Sql.tokenGroups placed).length ∧
      (spans.length = statements.length →
        List.Forall₂ (Sql.Span.Locates text placed) spans blocks ∧
        Answers (parse options text) statements
          (spans.map fun span => (span.length, span.position))) ∧
      (spans.length ≠ statements.length →
        Answers (parse options text) statements
          (List.replicate statements.length (0, .start))) := by
  obtain ⟨placed, blocks, read, fills, reads⟩ := Sql.reads_parseText parsed
  have answers := answers_parse parsed
  obtain ⟨spans, found, covers⟩ := Sql.split_covers fills read
  have groups : Sql.tokenGroups (placed.filter (·.token ≠ .blank)) = Sql.tokenGroups placed := by
    rw [Sql.tokenGroups, Sql.stretches_filter, Sql.tokenGroups]
  have noBlank : ∀ token ∈ placed.filter (·.token ≠ .blank), token.token ≠ .blank :=
    fun token member => of_decide_eq_true (List.mem_filter.mp member).2
  have belong := (reads.belongs noBlank).2
  rw [groups, reads.length_blocks, ← covers.length_eq] at belong
  have given : spansOf text statements.length =
      if spans.length = statements.length then spans else [] := by
    rw [spansOf, found]
  rw [given] at answers
  refine ⟨placed, blocks, spans, read, fills, found, reads, covers.length_eq, fun same => ⟨?_, ?_⟩,
    fun other => ?_⟩
  · exact Sql.locates_of_covers covers (belong same.symm) reads.ne_nil fun _ member => member
  · rwa [if_pos same, placesOf_of_length same] at answers
  · rwa [if_neg other, placesOf_nil] at answers

/-- Two statements, the second one on a line of its own. -/
def twoLines : List Char := "SELECT 1;\nSELECT 22 ;".toList

theorem parse_places_twoLines :
    ∃ statements placed blocks,
      Sql.parseText Options.default.recursionLimit.toNat twoLines = .ok statements ∧
      List.Forall₂ (Sql.Span.Locates twoLines placed) [⟨0, 8, ⟨1, 1⟩⟩, ⟨10, 9, ⟨2, 1⟩⟩] blocks ∧
      Answers (parse .default twoLines) statements [(8, ⟨1, 1⟩), (9, ⟨2, 1⟩)] := by
  have counted : (Sql.parseText Options.default.recursionLimit.toNat twoLines).toOption.map
      List.length = some 2 := by decide +kernel
  have shown : (Sql.split twoLines).toOption =
      some [⟨0, 8, ⟨1, 1⟩⟩, ⟨10, 9, ⟨2, 1⟩⟩] := by decide +kernel
  cases parsed : Sql.parseText Options.default.recursionLimit.toNat twoLines with
  | error error =>
    rw [parsed] at counted
    cases counted
  | ok statements =>
    rw [parsed] at counted
    obtain ⟨placed, blocks, spans, -, -, found, -, -, placesOf, -⟩ := parse_places parsed
    rw [found] at shown
    cases shown
    obtain ⟨locates, answers⟩ := placesOf (Option.some.inj counted).symm
    exact ⟨statements, placed, blocks, rfl, locates, answers⟩

/-- The tokens that are left behind the first statement of a text. -/
def Sql.leftBehind (room : Nat) (text : List Char) : Option (List Token) := do
  let tokens ← (tokenize text).toOption
  let solid := tokens.filter (·.token ≠ .blank)
  return ((statementParser solid.length).run room solid).rest.map Located.token

/-- A statement, a word that ends the text, and another statement that is not read any more. -/
def endedEarly : List Char := "SELECT 1 END; SELECT 2".toList

/-- The only statement that is read takes two tokens, but it has no length, since there are two
spans. -/
theorem parse_endedEarly :
    (Sql.parseText Options.default.recursionLimit.toNat endedEarly).toOption.map List.length =
        some 1 ∧
      (Sql.leftBehind Options.default.recursionLimit.toNat endedEarly).map
        (·.map Sql.Token.text) = some ["END", ";", "SELECT", "2"] ∧
      (Sql.split endedEarly).toOption.map List.length = some 2 ∧
      (parse .default endedEarly).statements.map (·.base.stringLength) = [0] := by
  decide +kernel

end SqlImage
