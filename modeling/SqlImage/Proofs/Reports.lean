/-
This file says what the scopes of a session report: as long as no part of an image is
overwritten, every scope reports its account, in whatever order images are made, read
and given back and however the scopes are nested. So an image that is made and given
back in one scope leaves nothing behind, and each further time it is given back there
counts all its cells as invalid once more.
-/

import SqlImage.Proofs.Follow

namespace SqlImage.Session

open SqlImage.Image SqlImage.Tree

variable {Remark : Type}

/-! ### Sessions and their reports -/

mutual

/-- Whether a step overwrites no part of an image. -/
def Step.neverPokes : Step Remark → Bool
  | .poke .. => false
  | .track inner => neverPokes inner
  | _ => true

/-- Whether steps overwrite no part of an image. -/
def neverPokes : List (Step Remark) → Bool
  | [] => true
  | head :: tail => head.neverPokes && neverPokes tail

end

mutual

/-- The reports in an answer, in the order in which the scopes closed. -/
def Answer.reports : Answer Remark → List Report
  | .tracked answers report => reports answers ++ [report]
  | _ => []

/-- The reports in answers, in the order in which the scopes closed. -/
def reports : List (Answer Remark) → List Report
  | [] => []
  | head :: tail => head.reports ++ reports tail

end

theorem reports_dump (state : State) (name : String) :
    (answer (dump state name) : Answer Remark).reports = [] := by
  unfold dump
  cases state.held? name with
  | error failure => rfl
  | ok held =>
    simp only [bind, Except.bind]
    cases state.heap.load held.root <;> rfl

theorem reports_read (state : State) (name : String) :
    (answer (read state name) : Answer Remark).reports = [] := by
  unfold read
  cases state.held? name with
  | error failure => rfl
  | ok held =>
    simp only [bind, Except.bind]
    split <;> rfl

theorem reports_readNull (state : State) : (readNull state : Answer Remark).reports = [] := by
  unfold readNull
  split <;> rfl

/-! ### Runs -/

mutual

theorem follows_step : (step : Step Remark) → {state : State} → {book : Book} →
    step.neverPokes = true → Follows state book →
    Follows (Session.step step state).2 (Book.step step book).2 ∧
      (Session.step step state).1.reports = (Book.step step book).1
  | .create name result, _, _, _, follows => ⟨follows.create name result, rfl⟩
  | .dump name, state, _, _, follows => ⟨follows, reports_dump state name⟩
  | .read name, state, _, _, follows => ⟨follows, reports_read state name⟩
  | .null, state, _, _, follows => ⟨follows, reports_readNull state⟩
  | .remark _, _, _, _, follows => ⟨follows, rfl⟩
  | .release name, state, book, _, follows => by
    rcases follows.release name with ⟨failure, failed, same⟩ | ⟨later, done, laterFollows⟩
    · simp only [Session.step, failed, Book.step, same]
      exact ⟨follows, rfl⟩
    · simp only [Session.step, done, Book.step]
      exact ⟨laterFollows, rfl⟩
  | .track inner, state, book, calm, follows => by
    obtain ⟨inside, same⟩ := follows_steps inner calm follows.openScope
    have opened : 0 < (Book.steps inner book.openScope).2.logs.length := by
      rw [Book.length_logs_steps]
      exact Nat.succ_pos _
    obtain ⟨report, outside⟩ := inside.closeScope opened
    refine ⟨outside, ?_⟩
    show reports (steps inner state.openScope).1 ++
      [(steps inner state.openScope).2.closeScope.1] = _
    rw [same, report]
    rfl

/-- Every run of steps keeps memory and book together, and every scope that closes reports its
account. -/
theorem follows_steps : (session : List (Step Remark)) → {state : State} → {book : Book} →
    neverPokes session = true → Follows state book →
    Follows (steps session state).2 (Book.steps session book).2 ∧
      reports (steps session state).1 = (Book.steps session book).1
  | [], _, _, _, follows => ⟨follows, rfl⟩
  | head :: tail, state, book, calm, follows => by
    obtain ⟨headCalm, tailCalm⟩ := (Bool.and_eq_true _ _).mp calm
    obtain ⟨first, firstSame⟩ := follows_step head headCalm follows
    obtain ⟨rest, restSame⟩ := follows_steps tail tailCalm first
    refine ⟨rest, ?_⟩
    show (Session.step head state).1.reports ++ reports (steps tail _).1 = _
    rw [firstSame, restSame]
    rfl

end

/-! ### One image in one scope -/

/-- What happens in a scope in which a tree is made and given back some times. -/
def oneTree (tree : Made) (times : Nat) : List Event :=
  List.replicate times (.released tree) ++ [.made tree]

theorem oneTree_succ (tree : Made) (times : Nat) :
    oneTree tree (times + 1) = .released tree :: oneTree tree times := rfl

theorem madeIn_oneTree (tree : Made) (times : Nat) : madeIn (oneTree tree times) = [tree] := by
  induction times with
  | zero => rfl
  | succ times inductionHypothesis => exact inductionHypothesis

theorem released_mem_oneTree (tree : Made) (times : Nat) :
    .released tree ∈ oneTree tree (times + 1) := by
  rw [oneTree_succ]
  exact List.mem_cons_self

theorem invalidIn_oneTree (tree : Made) (more : Nat) :
    invalidIn (oneTree tree (more + 1)) = more * tree.cells := by
  induction more with
  | zero => simp [oneTree, invalidIn]
  | succ more inductionHypothesis =>
    rw [oneTree_succ, invalidIn, inductionHypothesis,
      if_neg fun new => new.2 (released_mem_oneTree tree more), Nat.succ_mul, Nat.add_comm]

/-- The first time counts as a release, and every further time as invalid. -/
theorem account_oneTree (tree : Made) (more : Nat) :
    account (oneTree tree (more + 1)) = ⟨tree.cells, tree.cells, 0, more * tree.cells⟩ := by
  have given : givenIn (oneTree tree (more + 1)) = [tree] := by
    rw [givenIn, madeIn_oneTree, List.filter_cons_of_pos]
    · rfl
    · exact decide_eq_true (released_mem_oneTree tree more)
  rw [account, madeIn_oneTree, given, invalidIn_oneTree, Nat.sub_self]
  simp [cellsOf]

/-- Giving back one tree again and again. -/
theorem Book.steps_replicate {book : Book} {name : String} {tree : Made} {log : List Event}
    {outer : List (List Event)} (named : book.names.lookup name = some tree)
    (usable : tree ∉ book.gone) (shown : book.logs = log :: outer) (times : Nat) :
    Book.steps (List.replicate times (.release name : Step Remark)) book =
      ([], { book with logs := (List.replicate times (.released tree) ++ log) :: outer }) := by
  induction times generalizing book log with
  | zero =>
    cases book
    cases shown
    rfl
  | succ times inductionHypothesis =>
    have entered : book.release name = { book with logs := (.released tree :: log) :: outer } := by
      simp only [Book.release, named, if_neg usable, shown]
    have rest := @inductionHypothesis { book with logs := (.released tree :: log) :: outer }
      (.released tree :: log) named usable rfl
    simp only [List.replicate_succ, Book.steps, Book.step, entered, rest, List.nil_append]
    rw [← List.replicate_succ, List.replicate_succ', List.append_assoc]
    rfl

/-- What the only scope of a session reports in which an image is made and given back some
times. -/
theorem Book.steps_made (name : String) (result : ParseResult) (times : Nat) :
    (Book.steps (.create name result :: List.replicate times (.release name : Step Remark))
      Book.start.openScope).2.closeScope.1 = account (oneTree ⟨0, result.cells⟩ times) := by
  have releases : Book.steps (List.replicate times (.release name : Step Remark))
      (Book.start.openScope.create name result) = _ :=
    Book.steps_replicate List.lookup_cons_self List.not_mem_nil rfl times
  simp only [Book.steps, Book.step, releases]
  rfl

theorem neverPokes_replicate (name : String) (times : Nat) :
    neverPokes (List.replicate times (.release name : Step Remark)) = true := by
  induction times with
  | zero => rfl
  | succ times inductionHypothesis => exact inductionHypothesis

/-- Making an image and giving it back some times in one scope. -/
theorem run_made (name : String) (result : ParseResult) (more : Nat) :
    (run (.create name result :: List.replicate (more + 1) (.release name : Step Remark))).2 =
      ⟨result.cells, result.cells, 0, more * result.cells⟩ := by
  have calm : neverPokes (.create name result ::
      List.replicate (more + 1) (.release name : Step Remark)) = true :=
    neverPokes_replicate name (more + 1)
  have inside := (follows_steps _ calm follows_start.openScope).1
  have opened := Book.length_logs_steps (.create name result ::
    List.replicate (more + 1) (.release name : Step Remark)) Book.start.openScope
  have report := (inside.closeScope (opened ▸ Nat.succ_pos _)).1
  rw [Book.steps_made, account_oneTree] at report
  exact report

/-- As long as no part of an image is overwritten, every scope of a session reports its account.
In particular an image that is made and given back in one scope leaves nothing behind, and if it is
given back more often, each further time counts all its cells as invalid. -/
theorem reports_eq :
    (∀ session : List (Step Remark), neverPokes session = true →
      reports (steps session State.start).1 = (Book.steps session Book.start).1 ∧
      reports (run session).1 ++ [(run session).2] = (Book.step (.track session) Book.start).1) ∧
    (∀ (name : String) (result : ParseResult) (more : Nat),
      (run (.create name result :: List.replicate (more + 1) (.release name : Step Remark))).2 =
        ⟨result.cells, result.cells, 0, more * result.cells⟩) ∧
    ∀ (name : String) (result : ParseResult),
      (run [.create name result, (.release name : Step Remark)]).2.isBalanced = true := by
  refine ⟨fun session calm => ⟨?_, ?_⟩, run_made, fun name result => ?_⟩
  · exact (follows_steps session calm follows_start).2
  · exact (follows_step (.track session) calm follows_start).2
  · have report := @run_made Remark name result 0
    rw [List.replicate_one, Nat.zero_mul] at report
    rw [report]
    simp [Report.isBalanced]

/-- A session with a scope in its scope. The image of the outer one takes two cells and the image
of the inner one takes one. -/
def nested : List (Step Unit) :=
  [.create "outer" (.invalid ⟨"message", 1, 1⟩),
    .track [.create "inner" (.valid []), .release "outer", .release "inner", .release "inner"],
    .release "outer", .release "inner", .read "outer"]

/-- The inner scope counts the outer image as invalid, and its own the second time. Nothing is
counted for what cannot be named any more. -/
theorem reports_nested : neverPokes nested = true ∧
    reports (run nested).1 ++ [(run nested).2] = [⟨1, 1, 0, 3⟩, ⟨2, 2, 0, 0⟩] :=
  ⟨rfl, (reports_eq.1 nested rfl).2.trans rfl⟩

end SqlImage.Session
