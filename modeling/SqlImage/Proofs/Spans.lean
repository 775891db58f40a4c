/-
This file proves that the spans of a text are those of its statements. The tokens
between two semicolons make a group, blanks and comments left out, and a group
without any token is none. Every other group has one span: from the first character
of its first token to the last one of its last token. A span is closed by looking
for the place of the next token, and the places of tokens are found from positions,
so both come down to the tokens standing side by side in the text.
-/

import Mathlib.Data.List.Forall2
import Mathlib.Data.List.Pairwise
import SqlImage.Proofs.Tokenized
import SqlImage.Sql.Span

namespace SqlImage.Sql

/-! ### Groups of tokens -/

namespace Placed

/-- Whether a token separates statements. -/
def isSeparator (placed : Placed) : Bool := placed.token = .symbol .semicolon

/-- Whether a token belongs to a statement. -/
def isSignificant (placed : Placed) : Bool := !placed.isSeparator && placed.token ≠ .blank

/-- One token ends before another begins. -/
def Precedes (first second : Placed) : Prop := first.stop ≤ second.start

theorem start_le_stop (placed : Placed) : placed.start ≤ placed.stop := Nat.le_add_right _ _

end Placed

/-- The tokens of each stretch between separators that belong to a statement. -/
def stretches (placed : List Placed) : List (List Placed) :=
  (placed.splitOnP Placed.isSeparator).map (List.filter Placed.isSignificant)

/-- The tokens of each statement: those of the stretches that have any. -/
def tokenGroups (placed : List Placed) : List (List Placed) :=
  (stretches placed).filter (!·.isEmpty)

/-- A span begins with the first token of a group and ends with its last one, and its position is
that of the character after those before it. -/
def Span.Covers (text : List Char) (span : Span) (group : List Placed) : Prop :=
  ∃ first last, group.head? = some first ∧ group.getLast? = some last ∧
    span.start = first.start ∧ span.start + span.length = last.stop ∧
    span.position = .after (text.take span.start)

section Stretches

variable {head : Placed} {tail : List Placed}

theorem stretches_cons_of_separator (separates : head.isSeparator = true) :
    stretches (head :: tail) = [] :: stretches tail := by
  rw [stretches, List.splitOnP_cons_eq_if_modifyHead, if_pos separates]
  rfl

theorem stretches_cons_of_blank (blank : head.token = .blank) :
    stretches (head :: tail) = stretches tail := by
  have separates : ¬ head.isSeparator = true := by simp [Placed.isSeparator, blank]
  have dropped : ¬ head.isSignificant = true := by simp [Placed.isSignificant, blank]
  obtain ⟨first, others, parts⟩ :=
    List.exists_cons_of_ne_nil (List.splitOnP_ne_nil Placed.isSeparator tail)
  rw [stretches, stretches, List.splitOnP_cons_eq_if_modifyHead, if_neg separates, parts,
    List.modifyHead_cons, List.map_cons, List.map_cons, List.filter_cons_of_neg dropped]

theorem stretches_cons_of_significant (significant : head.isSignificant = true) :
    stretches (head :: tail) = (stretches tail).modifyHead (head :: ·) := by
  have separates : ¬ head.isSeparator = true := by
    intro separates
    simp [Placed.isSignificant, separates] at significant
  obtain ⟨first, others, parts⟩ :=
    List.exists_cons_of_ne_nil (List.splitOnP_ne_nil Placed.isSeparator tail)
  rw [stretches, stretches, List.splitOnP_cons_eq_if_modifyHead, if_neg separates, parts,
    List.modifyHead_cons, List.map_cons, List.map_cons, List.modifyHead_cons,
    List.filter_cons_of_pos significant]

end Stretches

/-! ### Tokens side by side -/

section Fills

variable {before rest text : List Char} {placed : List Placed}

theorem Fills.start_ge (fills : Fills before placed rest) :
    ∀ token ∈ placed, before.length ≤ token.start := by
  induction fills with
  | nil => exact List.forall_mem_nil _
  | cons token taken further inductionHypothesis =>
    intro other member
    rcases List.mem_cons.mp member with rfl | later
    · exact Nat.le_refl _
    · have behind := inductionHypothesis other later
      rw [List.length_append] at behind
      omega

theorem Fills.pairwise_precedes (fills : Fills before placed rest) :
    placed.Pairwise Placed.Precedes := by
  induction fills with
  | nil => exact .nil
  | cons token taken further inductionHypothesis =>
    refine .cons (fun other member => ?_) inductionHypothesis
    have behind := further.start_ge other member
    rwa [List.length_append] at behind

theorem Fills.stop_le (fills : Fills before placed rest) :
    ∀ token ∈ placed, token.stop ≤ before.length + rest.length := by
  induction fills with
  | nil => exact List.forall_mem_nil _
  | cons token taken further inductionHypothesis =>
    intro other member
    rw [List.length_append]
    rcases List.mem_cons.mp member with rfl | later
    · dsimp only [Placed.stop, Placed.start]
      omega
    · have within := inductionHypothesis other later
      rw [List.length_append] at within
      omega

theorem Fills.start_lt_stop (fills : Fills before placed rest) :
    ∀ token ∈ placed, token.start < token.stop := by
  induction fills with
  | nil => exact List.forall_mem_nil _
  | cons token taken further inductionHypothesis =>
    intro other member
    rcases List.mem_cons.mp member with rfl | later
    · exact Nat.lt_add_of_pos_right (List.length_pos_iff.mpr taken)
    · exact inductionHypothesis other later

/-- The next token, or the end of the text, is found right behind the characters read. -/
theorem Fills.offsetOf_eq (fills : Fills before placed rest) (whole : before ++ rest = text) :
    Span.offsetOf (.ofText text) (placed.map Placed.located) = before.length := by
  subst whole
  cases fills with
  | nil =>
    rw [List.append_nil]
    exact LineIndex.total_ofText before
  | cons token taken further => exact LineIndex.offset_after before _

end Fills

/-! ### The spans of the groups -/

section Covers

variable {text : List Char} {opened : List Placed}

/-- The span from the first of some tokens to the end of the last one. -/
def openSpan (opened : List Placed) : Option (Located × Nat) :=
  opened.head?.bind fun first => opened.getLast?.map fun last => (first.located, last.stop)

/-- Closing a span covers the tokens that it was opened with. -/
theorem covers_close (ordered : opened.Pairwise Placed.Precedes)
    (within : ∀ token ∈ opened, token.before <+: text) :
    List.Forall₂ (Span.Covers text) (Span.close (.ofText text) (openSpan opened))
      ([opened].filter (!·.isEmpty)) := by
  cases opened with
  | nil => exact .nil
  | cons first others =>
    obtain ⟨rest, whole⟩ := within first List.mem_cons_self
    have startEq : LineIndex.offset (.ofText text) (.after first.before) = first.start := by
      rw [← whole]
      exact LineIndex.offset_after first.before rest
    have beginning : first.before = text.take first.start := by
      rw [← whole]
      exact List.take_left.symm
    obtain ⟨last, lastEq⟩ : ∃ last, (first :: others).getLast? = some last :=
      ⟨_, List.getLast?_eq_some_getLast (List.cons_ne_nil first others)⟩
    have inOrder : first.start ≤ last.stop := by
      rcases List.mem_cons.mp (List.mem_of_getLast? lastEq) with rfl | later
      · exact last.start_le_stop
      · have precedes := List.rel_of_pairwise_cons ordered later
        exact Nat.le_trans (Nat.le_trans first.start_le_stop precedes) last.start_le_stop
    have opens : openSpan (first :: others) = some (first.located, last.stop) := by
      rw [openSpan, lastEq]
      rfl
    rw [opens, Span.close]
    refine .cons ⟨first, last, rfl, lastEq, startEq, ?_, ?_⟩ .nil
    · dsimp only [Placed.located]
      rw [startEq]
      exact Nat.add_sub_cancel' inOrder
    · dsimp only [Placed.located]
      rw [startEq]
      exact congrArg Position.after beginning

/-- The groups of some tokens when others have opened a group before. -/
def tokenGroupsFrom (opened placed : List Placed) : List (List Placed) :=
  ((stretches placed).modifyHead (opened ++ ·)).filter (!·.isEmpty)

theorem tokenGroupsFrom_nil (placed : List Placed) :
    tokenGroupsFrom [] placed = tokenGroups placed := by
  obtain ⟨first, others, parts⟩ :=
    List.exists_cons_of_ne_nil (List.splitOnP_ne_nil Placed.isSeparator placed)
  rw [tokenGroupsFrom, tokenGroups, stretches, parts]
  rfl

theorem tokenGroupsFrom_separator (head : Placed) (tail : List Placed)
    (separates : head.isSeparator = true) :
    tokenGroupsFrom opened (head :: tail) = [opened].filter (!·.isEmpty) ++ tokenGroups tail := by
  rw [tokenGroupsFrom, tokenGroups, stretches_cons_of_separator separates, List.modifyHead_cons,
    List.append_nil, ← List.filter_append]
  rfl

theorem tokenGroupsFrom_blank (head : Placed) (tail : List Placed) (blank : head.token = .blank) :
    tokenGroupsFrom opened (head :: tail) = tokenGroupsFrom opened tail := by
  rw [tokenGroupsFrom, tokenGroupsFrom, stretches_cons_of_blank blank]

theorem tokenGroupsFrom_concat (head : Placed) (tail : List Placed)
    (significant : head.isSignificant = true) :
    tokenGroupsFrom opened (head :: tail) = tokenGroupsFrom (opened ++ [head]) tail := by
  rw [tokenGroupsFrom, tokenGroupsFrom, stretches_cons_of_significant significant]
  cases stretches tail with
  | nil => rfl
  | cons first others =>
    rw [List.modifyHead_cons, List.modifyHead_cons, List.modifyHead_cons, List.append_assoc]
    rfl

theorem openSpan_concat (head : Placed) :
    openSpan (opened ++ [head]) =
      some (((openSpan opened).map (·.1)).getD head.located, head.stop) := by
  cases opened with
  | nil => rfl
  | cons first others =>
    obtain ⟨last, lastEq⟩ : ∃ last, (first :: others).getLast? = some last :=
      ⟨_, List.getLast?_eq_some_getLast (List.cons_ne_nil first others)⟩
    rw [openSpan, openSpan, List.getLast?_concat, lastEq]
    rfl

theorem Span.ofTokens_of_significant {index : LineIndex} {current : Option (Located × Nat)}
    {head : Located} {tail : List Located} (separates : head.token ≠ .symbol .semicolon)
    (blank : head.token ≠ .blank) :
    ofTokens index current (head :: tail) =
      ofTokens index (some ((current.map (·.1)).getD head, offsetOf index tail)) tail := by
  rw [ofTokens]
  split
  · rename_i same
    exact absurd same separates
  · rename_i same
    exact absurd same blank
  · rfl

/-- The spans found are those of the groups, in their order. -/
theorem covers_ofTokens {before rest : List Char} {placed : List Placed}
    (fills : Fills before placed rest) (whole : before ++ rest = text)
    (ordered : (opened ++ placed).Pairwise Placed.Precedes)
    (within : ∀ token ∈ opened, token.before <+: text) :
    List.Forall₂ (Span.Covers text)
      (Span.ofTokens (.ofText text) (openSpan opened) (placed.map Placed.located))
      (tokenGroupsFrom opened placed) := by
  induction fills generalizing opened with
  | nil before =>
    rw [List.append_nil] at ordered
    have closed := covers_close ordered within
    rw [tokenGroupsFrom]
    simpa [stretches, Span.ofTokens] using closed
  | @cons before characters rest others token taken further inductionHypothesis =>
    have onward : (before ++ characters) ++ rest = text := by rw [List.append_assoc, whole]
    by_cases separates : token = .symbol .semicolon
    · subst separates
      have behind : others.Pairwise Placed.Precedes :=
        (List.pairwise_append.mp ordered).2.1.of_cons
      have closed := covers_close (List.pairwise_append.mp ordered).1 within
      have further : List.Forall₂ (Span.Covers text)
          (Span.ofTokens (.ofText text) (openSpan []) (others.map Placed.located))
          (tokenGroupsFrom [] others) := inductionHypothesis onward behind (List.forall_mem_nil _)
      rw [tokenGroupsFrom_nil] at further
      rw [tokenGroupsFrom_separator _ _ rfl]
      exact List.rel_append closed further
    by_cases blank : token = .blank
    · subst blank
      have left : (opened ++ others).Pairwise Placed.Precedes :=
        ordered.sublist (List.Sublist.append_left (List.sublist_cons_self _ _) _)
      rw [tokenGroupsFrom_blank _ _ rfl]
      exact inductionHypothesis onward left within
    · have significant : Placed.isSignificant ⟨token, before, characters⟩ = true := by
        simp [Placed.isSignificant, Placed.isSeparator, separates, blank]
      have stopEq : Span.offsetOf (.ofText text) (others.map Placed.located) =
          Placed.stop ⟨token, before, characters⟩ := by
        rw [further.offsetOf_eq onward, List.length_append]
        rfl
      have joined : ((opened ++ [(⟨token, before, characters⟩ : Placed)]) ++ others).Pairwise
          Placed.Precedes := by rwa [List.append_assoc]
      have widened : List.Forall₂ (Span.Covers text)
          (Span.ofTokens (.ofText text) (openSpan (opened ++ [⟨token, before, characters⟩]))
            (others.map Placed.located))
          (tokenGroupsFrom (opened ++ [⟨token, before, characters⟩]) others) := by
        refine inductionHypothesis onward joined fun other member => ?_
        rcases List.mem_append.mp member with earlier | now
        · exact within other earlier
        · rw [List.mem_singleton.mp now, ← whole]
          exact List.prefix_append _ _
      rw [openSpan_concat, ← stopEq] at widened
      rw [tokenGroupsFrom_concat _ _ significant, List.map_cons,
        Span.ofTokens_of_significant separates blank]
      exact widened

end Covers

/-! ### How the groups lie -/

section Groups

variable {placed : List Placed}

theorem Placed.kind (token : Placed) :
    token.isSeparator = true ∨ token.token = .blank ∨ token.isSignificant = true := by
  by_cases separates : token.isSeparator = true
  · exact .inl separates
  · by_cases blank : token.token = .blank
    · exact .inr (.inl blank)
    · exact .inr (.inr (by simp [isSignificant, separates, blank]))

theorem stretches_eq_cons (placed : List Placed) :
    ∃ first others, stretches placed = first :: others := by
  obtain ⟨first, others, parts⟩ :=
    List.exists_cons_of_ne_nil (List.splitOnP_ne_nil Placed.isSeparator placed)
  exact ⟨_, _, by rw [stretches, parts, List.map_cons]⟩

theorem mem_tokenGroups {group : List Placed} :
    group ∈ tokenGroups placed ↔ group ∈ stretches placed ∧ group ≠ [] := by
  simp [tokenGroups]

/-- The tokens of a stretch stand in the text in the same order. -/
theorem sublist_of_mem_stretches {stretch : List Placed} (member : stretch ∈ stretches placed) :
    stretch.Sublist placed := by
  induction placed generalizing stretch with
  | nil =>
    cases List.mem_singleton.mp member
    exact List.Sublist.refl []
  | cons head tail inductionHypothesis =>
    rcases head.kind with separates | blank | significant
    · rw [stretches_cons_of_separator separates] at member
      rcases List.mem_cons.mp member with rfl | further
      · exact List.nil_sublist _
      · exact (inductionHypothesis further).cons head
    · rw [stretches_cons_of_blank blank] at member
      exact (inductionHypothesis member).cons head
    · obtain ⟨first, others, parts⟩ := stretches_eq_cons tail
      rw [stretches_cons_of_significant significant, parts, List.modifyHead_cons] at member
      rw [parts] at inductionHypothesis
      rcases List.mem_cons.mp member with rfl | further
      · exact (inductionHypothesis List.mem_cons_self).cons_cons head
      · exact (inductionHypothesis (List.mem_cons_of_mem _ further)).cons head

/-- Some tokens are divided from others by a separator. -/
def Divided (placed first second : List Placed) : Prop :=
  ∃ separator ∈ placed, separator.isSeparator = true ∧
    (∀ token ∈ first, token.Precedes separator) ∧ ∀ token ∈ second, separator.Precedes token

theorem Divided.cons {first second : List Placed} (head : Placed)
    (divided : Divided placed first second) : Divided (head :: placed) first second := by
  obtain ⟨separator, member, others⟩ := divided
  exact ⟨separator, List.mem_cons_of_mem head member, others⟩

/-- Between any two stretches there is a separator. -/
theorem stretches_divided (ordered : placed.Pairwise Placed.Precedes) :
    (stretches placed).Pairwise (Divided placed) := by
  induction placed with
  | nil => exact List.pairwise_singleton _ _
  | cons head tail inductionHypothesis =>
    have headPrecedes : ∀ token ∈ tail, head.Precedes token :=
      fun token => List.rel_of_pairwise_cons ordered
    have further := inductionHypothesis ordered.of_cons
    rcases head.kind with separates | blank | significant
    · rw [stretches_cons_of_separator separates]
      refine .cons (fun second member => ?_) (further.imp (Divided.cons head))
      refine ⟨head, List.mem_cons_self, separates, List.forall_mem_nil _, fun token inside => ?_⟩
      exact headPrecedes token ((sublist_of_mem_stretches member).subset inside)
    · rw [stretches_cons_of_blank blank]
      exact further.imp (Divided.cons head)
    · obtain ⟨first, others, parts⟩ := stretches_eq_cons tail
      rw [stretches_cons_of_significant significant, parts, List.modifyHead_cons]
      rw [parts] at further
      refine .cons (fun second member => ?_) (further.of_cons.imp (Divided.cons head))
      obtain ⟨separator, inside, separates, before, behind⟩ :=
        List.rel_of_pairwise_cons further member
      refine ⟨separator, List.mem_cons_of_mem head inside, separates, fun token found => ?_,
        behind⟩
      rcases List.mem_cons.mp found with rfl | later
      · exact headPrecedes separator inside
      · exact before token later

/-- Every token that belongs to a statement is in a stretch. -/
theorem exists_mem_stretches {token : Placed} (member : token ∈ placed)
    (belongs : token.isSignificant = true) : ∃ stretch ∈ stretches placed, token ∈ stretch := by
  induction placed with
  | nil => cases member
  | cons head tail inductionHypothesis =>
    rcases head.kind with separates | blank | significant
    · rw [stretches_cons_of_separator separates]
      rcases List.mem_cons.mp member with rfl | later
      · simp [Placed.isSignificant, separates] at belongs
      · obtain ⟨stretch, inside, found⟩ := inductionHypothesis later
        exact ⟨stretch, List.mem_cons_of_mem _ inside, found⟩
    · rw [stretches_cons_of_blank blank]
      rcases List.mem_cons.mp member with rfl | later
      · simp [Placed.isSignificant, blank] at belongs
      · exact inductionHypothesis later
    · obtain ⟨first, others, parts⟩ := stretches_eq_cons tail
      rw [stretches_cons_of_significant significant, parts, List.modifyHead_cons]
      rw [parts] at inductionHypothesis
      rcases List.mem_cons.mp member with rfl | later
      · exact ⟨_, List.mem_cons_self, List.mem_cons_self⟩
      · obtain ⟨stretch, inside, found⟩ := inductionHypothesis later
        rcases List.mem_cons.mp inside with rfl | further
        · exact ⟨_, List.mem_cons_self, List.mem_cons_of_mem _ found⟩
        · exact ⟨stretch, List.mem_cons_of_mem _ further, found⟩

/-- A separator comes before all tokens of a stretch or after all of them. -/
theorem stretches_beside (ordered : placed.Pairwise Placed.Precedes) {separator : Placed}
    (member : separator ∈ placed) (separates : separator.isSeparator = true) :
    ∀ stretch ∈ stretches placed, (∀ token ∈ stretch, token.Precedes separator) ∨
      ∀ token ∈ stretch, separator.Precedes token := by
  obtain ⟨earlier, later, rfl⟩ := List.append_of_mem member
  obtain ⟨-, behind, before⟩ := List.pairwise_append.mp ordered
  have parts : stretches (earlier ++ separator :: later) =
      stretches earlier ++ stretches later := by
    rw [stretches, List.splitOnP_append_cons _ _ separates, List.map_append]
    rfl
  intro stretch inside
  rw [parts] at inside
  rcases List.mem_append.mp inside with inEarlier | inLater
  · left
    intro token found
    exact before token ((sublist_of_mem_stretches inEarlier).subset found) separator
      List.mem_cons_self
  · right
    intro token found
    exact List.rel_of_pairwise_cons behind ((sublist_of_mem_stretches inLater).subset found)

end Groups

/-! ### Lists side by side -/

section Pairs

variable {α β : Type} {related : α → β → Prop} {left : List α} {right : List β}

theorem exists_of_forall₂ (side : List.Forall₂ related left right) {a : α} (member : a ∈ left) :
    ∃ b ∈ right, related a b := by
  induction side with
  | nil => cases member
  | cons here further inductionHypothesis =>
    rcases List.mem_cons.mp member with rfl | later
    · exact ⟨_, List.mem_cons_self, here⟩
    · obtain ⟨b, inside, same⟩ := inductionHypothesis later
      exact ⟨b, List.mem_cons_of_mem _ inside, same⟩

/-- What is known of any two members of one list carries over to the members beside them. -/
theorem pairwise_of_forall₂ {known : β → β → Prop} {wanted : α → α → Prop}
    (side : List.Forall₂ related left right) (pairs : right.Pairwise known)
    (carry : ∀ a ∈ left, ∀ b ∈ left, ∀ c ∈ right, ∀ d ∈ right,
      related a c → related b d → known c d → wanted a b) :
    left.Pairwise wanted := by
  induction side with
  | nil => exact .nil
  | cons here further inductionHypothesis =>
    refine .cons (fun b member => ?_) (inductionHypothesis pairs.of_cons ?_)
    · obtain ⟨d, inside, there⟩ := exists_of_forall₂ further member
      exact carry _ List.mem_cons_self b (List.mem_cons_of_mem _ member) _ List.mem_cons_self d
        (List.mem_cons_of_mem _ inside) here there (List.rel_of_pairwise_cons pairs inside)
    · intro a memberA b memberB c memberC d memberD
      exact carry a (List.mem_cons_of_mem _ memberA) b (List.mem_cons_of_mem _ memberB) c
        (List.mem_cons_of_mem _ memberC) d (List.mem_cons_of_mem _ memberD)

end Pairs

/-! ### The spans of a text -/

/-- Every token of a group lies in its span. -/
theorem Span.Covers.contains {text : List Char} {span : Span} {group : List Placed}
    (covers : span.Covers text group) (ordered : group.Pairwise Placed.Precedes) {token : Placed}
    (inside : token ∈ group) :
    span.start ≤ token.start ∧ token.stop ≤ span.start + span.length := by
  obtain ⟨first, last, firstEq, lastEq, startEq, stopEq, -⟩ := covers
  rw [stopEq, startEq]
  constructor
  · obtain ⟨others, rfl⟩ := List.head?_eq_some_iff.mp firstEq
    rcases List.mem_cons.mp inside with rfl | later
    · exact Nat.le_refl _
    · exact Nat.le_trans first.start_le_stop (List.rel_of_pairwise_cons ordered later)
  · obtain ⟨others, rfl⟩ := List.getLast?_eq_some_iff.mp lastEq
    rcases List.mem_append.mp inside with earlier | now
    · have precedes := (List.pairwise_append.mp ordered).2.2 token earlier last List.mem_cons_self
      exact Nat.le_trans precedes last.start_le_stop
    · exact List.mem_singleton.mp now ▸ Nat.le_refl _

section Covered

variable {text : List Char} {placed group : List Placed} {span : Span}

theorem Span.Covers.lt_stop (covers : span.Covers text group) (fills : Fills [] placed text)
    (within : group.Sublist placed) : span.start < span.start + span.length := by
  have ordered := fills.pairwise_precedes.sublist within
  obtain ⟨token, _, tokenEq, -⟩ := id covers
  have inside : token ∈ group := List.mem_of_head? tokenEq
  have contained := covers.contains ordered inside
  have taken := fills.start_lt_stop token (within.subset inside)
  omega

theorem Span.Covers.stop_le (covers : span.Covers text group) (fills : Fills [] placed text)
    (within : group.Sublist placed) : span.start + span.length ≤ text.length := by
  obtain ⟨_, token, -, tokenEq, -, stopEq, -⟩ := covers
  have inside := fills.stop_le token (within.subset (List.mem_of_getLast? tokenEq))
  rw [stopEq]
  rwa [List.length_nil, Nat.zero_add] at inside

/-- A separator that comes after all tokens of a group comes after its span. -/
theorem Span.Covers.stop_le_start (covers : span.Covers text group) {separator : Placed}
    (before : ∀ token ∈ group, token.Precedes separator) :
    span.start + span.length ≤ separator.start := by
  obtain ⟨_, token, -, tokenEq, -, stopEq, -⟩ := covers
  rw [stopEq]
  exact before token (List.mem_of_getLast? tokenEq)

/-- A separator that comes before all tokens of a group comes before its span. -/
theorem Span.Covers.stop_le_of_precedes (covers : span.Covers text group) {separator : Placed}
    (behind : ∀ token ∈ group, separator.Precedes token) : separator.stop ≤ span.start := by
  obtain ⟨token, _, tokenEq, -, startEq, -⟩ := covers
  rw [startEq]
  exact behind token (List.mem_of_head? tokenEq)

end Covered

/-- The spans of a text, whose tokens are given with their places. -/
structure IsSplit (text : List Char) (placed : List Placed) (spans : List Span) : Prop where
  /-- There is one span for each group, in the same order. -/
  covers : List.Forall₂ (Span.Covers text) spans (tokenGroups placed)
  length_pos : ∀ span ∈ spans, 1 ≤ span.length
  within : ∀ span ∈ spans, span.start + span.length ≤ text.length
  increasing : spans.Pairwise fun first second => first.start < second.start
  /-- Two spans have a separator between them. -/
  divided : spans.Pairwise fun first second => ∃ separator ∈ placed,
    separator.isSeparator = true ∧ first.start + first.length ≤ separator.start ∧
      separator.stop ≤ second.start
  /-- Every token of a statement lies in exactly one span. -/
  once : ∀ token ∈ placed, token.isSignificant = true →
    ∃! span, span ∈ spans ∧ span.start ≤ token.start ∧ token.stop ≤ span.start + span.length
  /-- No separator has a character in a span. -/
  beside : ∀ separator ∈ placed, separator.isSeparator = true → ∀ span ∈ spans,
    separator.stop ≤ span.start ∨ span.start + span.length ≤ separator.start

section IsSplit

variable {text : List Char} {placed : List Placed} {spans : List Span}

theorem exists_covered (covers : List.Forall₂ (Span.Covers text) spans (tokenGroups placed))
    {span : Span} (member : span ∈ spans) :
    ∃ group ∈ stretches placed, group.Sublist placed ∧ span.Covers text group := by
  obtain ⟨group, inside, covered⟩ := exists_of_forall₂ covers member
  obtain ⟨inStretches, -⟩ := mem_tokenGroups.mp inside
  exact ⟨group, inStretches, sublist_of_mem_stretches inStretches, covered⟩

theorem split_divided (fills : Fills [] placed text)
    (covers : List.Forall₂ (Span.Covers text) spans (tokenGroups placed)) :
    spans.Pairwise fun first second => ∃ separator ∈ placed,
      separator.isSeparator = true ∧ first.start + first.length ≤ separator.start ∧
        separator.stop ≤ second.start := by
  have groupsDivided := (stretches_divided fills.pairwise_precedes).filter (!·.isEmpty)
  refine pairwise_of_forall₂ covers groupsDivided ?_
  intro first _ second _ firstGroup _ secondGroup _ firstCovered secondCovered between
  obtain ⟨separator, member, separates, before, behind⟩ := between
  exact ⟨separator, member, separates, firstCovered.stop_le_start before,
    secondCovered.stop_le_of_precedes behind⟩

/-- A span ends before the next one begins. -/
theorem split_follows (fills : Fills [] placed text)
    (covers : List.Forall₂ (Span.Covers text) spans (tokenGroups placed)) :
    spans.Pairwise fun first second => first.start + first.length ≤ second.start := by
  refine (split_divided fills covers).imp fun between => ?_
  obtain ⟨separator, -, -, before, behind⟩ := between
  exact Nat.le_trans (Nat.le_trans before separator.start_le_stop) behind

/-- No token lies in two spans. -/
theorem eq_of_contains (fills : Fills [] placed text)
    (covers : List.Forall₂ (Span.Covers text) spans (tokenGroups placed)) {token : Placed}
    (member : token ∈ placed) {first second : Span} (firstMember : first ∈ spans)
    (secondMember : second ∈ spans)
    (inFirst : first.start ≤ token.start ∧ token.stop ≤ first.start + first.length)
    (inSecond : second.start ≤ token.start ∧ token.stop ≤ second.start + second.length) :
    first = second := by
  have symmetric : Std.Symm fun first second : Span =>
      first.start + first.length ≤ second.start ∨
        second.start + second.length ≤ first.start := ⟨fun _ _ => Or.symm⟩
  have either : spans.Pairwise fun first second =>
      first.start + first.length ≤ second.start ∨
        second.start + second.length ≤ first.start := (split_follows fills covers).imp Or.inl
  have taken := fills.start_lt_stop token member
  by_contra different
  have apart := either.forall firstMember secondMember different
  omega

theorem split_once (fills : Fills [] placed text)
    (covers : List.Forall₂ (Span.Covers text) spans (tokenGroups placed)) {token : Placed}
    (member : token ∈ placed) (significant : token.isSignificant = true) :
    ∃! span, span ∈ spans ∧ span.start ≤ token.start ∧
      token.stop ≤ span.start + span.length := by
  obtain ⟨stretch, inStretches, inside⟩ := exists_mem_stretches member significant
  have inGroups : stretch ∈ tokenGroups placed :=
    mem_tokenGroups.mpr ⟨inStretches, List.ne_nil_of_mem inside⟩
  obtain ⟨span, spanMember, covered⟩ : ∃ span ∈ spans, span.Covers text stretch :=
    exists_of_forall₂ covers.flip inGroups
  have ordered := fills.pairwise_precedes.sublist (sublist_of_mem_stretches inStretches)
  have contained := covered.contains ordered inside
  refine ⟨span, ⟨spanMember, contained⟩, ?_⟩
  rintro other ⟨otherMember, otherContained⟩
  exact eq_of_contains fills covers member otherMember spanMember otherContained contained

/-- The spans of the groups are all that a split is. -/
theorem isSplit_of_covers (fills : Fills [] placed text)
    (covers : List.Forall₂ (Span.Covers text) spans (tokenGroups placed)) :
    IsSplit text placed spans := by
  have nonempty : ∀ span ∈ spans, span.start < span.start + span.length := by
    intro span member
    obtain ⟨group, -, within, covered⟩ := exists_covered covers member
    exact covered.lt_stop fills within
  refine ⟨covers, ?_, ?_, ?_, split_divided fills covers,
    fun token => split_once fills covers, ?_⟩
  · intro span member
    exact Nat.lt_add_right_iff_pos.mp (nonempty span member)
  · intro span member
    obtain ⟨group, -, within, covered⟩ := exists_covered covers member
    exact covered.stop_le fills within
  · refine (split_follows fills covers).imp_of_mem fun memberFirst _ before => ?_
    exact Nat.lt_of_lt_of_le (nonempty _ memberFirst) before
  · intro separator member separates span spanMember
    obtain ⟨group, inStretches, -, covered⟩ := exists_covered covers spanMember
    rcases stretches_beside fills.pairwise_precedes member separates group inStretches with
      before | behind
    · exact .inr (covered.stop_le_start before)
    · exact .inl (covered.stop_le_of_precedes behind)

end IsSplit

/-- The spans of a text cover the groups of its tokens. -/
theorem split_covers {text : List Char} {placed : List Placed} (fills : Fills [] placed text)
    (read : tokenize text = .ok (placed.map Placed.located)) :
    ∃ spans, split text = .ok spans ∧
      List.Forall₂ (Span.Covers text) spans (tokenGroups placed) := by
  have covers : List.Forall₂ (Span.Covers text)
      (Span.ofTokens (.ofText text) (openSpan []) (placed.map Placed.located))
      (tokenGroupsFrom [] placed) :=
    covers_ofTokens fills rfl fills.pairwise_precedes (List.forall_mem_nil _)
  rw [tokenGroupsFrom_nil] at covers
  refine ⟨_, ?_, covers⟩
  rw [split, read]
  rfl

/-- A text that can be cut into tokens has the spans of its statements, and these only. -/
theorem split_exact {text : List Char} {tokens : List Located}
    (read : tokenize text = .ok tokens) :
    ∃ placed spans, Fills [] placed text ∧ placed.map Placed.located = tokens ∧
      split text = .ok spans ∧ IsSplit text placed spans := by
  obtain ⟨placed, fills, rfl⟩ := fills_tokenize read
  obtain ⟨spans, found, covers⟩ := split_covers fills read
  exact ⟨placed, spans, fills, rfl, found, isSplit_of_covers fills covers⟩

/-- Semicolons in a comment and in a string, statements without a token, and a second line. -/
def quotedSemicolons : List Char := "/* ; */ SELECT 'é;' -- ;\n; ;\n\nx;".toList

theorem split_exact_quotedSemicolons :
    ∃ tokens, tokenize quotedSemicolons = .ok tokens ∧
      ∃ placed, Fills [] placed quotedSemicolons ∧ placed.map Placed.located = tokens ∧
        split quotedSemicolons = .ok [⟨8, 11, ⟨1, 9⟩⟩, ⟨30, 1, ⟨4, 1⟩⟩] ∧
        IsSplit quotedSemicolons placed [⟨8, 11, ⟨1, 9⟩⟩, ⟨30, 1, ⟨4, 1⟩⟩] := by
  have shown : (split quotedSemicolons).toOption =
      some [⟨8, 11, ⟨1, 9⟩⟩, ⟨30, 1, ⟨4, 1⟩⟩] := by decide +kernel
  cases read : tokenize quotedSemicolons with
  | error place =>
    rw [split, read] at shown
    cases shown
  | ok tokens =>
    obtain ⟨placed, spans, fills, same, found, exact⟩ := split_exact read
    rw [found] at shown
    cases shown
    exact ⟨tokens, rfl, placed, fills, same, found, exact⟩

end SqlImage.Sql
