/-
This file says that images do not get in each other's way. In a session without inner
scopes every step about a name gets the answer that it gets in the session in which
no other name occurs, and the report of the scope is the sum of the reports of those
sessions. What an image says does not depend on which of its cells are outstanding,
so an image that was given back is shown and read as before.
-/

import SqlImage.Proofs.Alone
import Mathlib.Data.List.Dedup

namespace SqlImage.Session

open SqlImage.Image SqlImage.Tree

variable {Remark : Type}

/-! ### The steps about a name -/

/-- The steps of a session about a name. -/
def about (name : String) (session : List (Step Remark)) : List (Step Remark) :=
  session.filter (·.name? = some name)

/-- The answers to the steps of a session about a name, among those to all steps. -/
def answersAbout (name : String) (session : List (Step Remark)) (answers : List (Answer Remark)) :
    List (Answer Remark) :=
  ((session.zip answers).filter (·.1.name? = some name)).map Prod.snd

/-- The names that a session is about. -/
def namesIn (session : List (Step Remark)) : List String := (session.filterMap Step.name?).dedup

/-- The reports of several scopes in one. -/
def total (reports : List Report) : Report :=
  ⟨(reports.map (·.allocations)).sum, (reports.map (·.releases)).sum,
    (reports.map (·.outstanding)).sum, (reports.map (·.invalidReleases)).sum⟩

theorem about_cons_of_eq {step : Step Remark} {name : String} (here : step.name? = some name)
    (session : List (Step Remark)) : about name (step :: session) = step :: about name session :=
  List.filter_cons_of_pos (decide_eq_true here)

theorem about_cons_of_ne {step : Step Remark} {name : String} (elsewhere : step.name? ≠ some name)
    (session : List (Step Remark)) : about name (step :: session) = about name session :=
  List.filter_cons_of_neg (by simpa using elsewhere)

theorem about_about (name : String) (session : List (Step Remark)) :
    about name (about name session) = about name session := by
  simp only [about, List.filter_filter, Bool.and_self]

theorem answersAbout_cons_of_eq {step : Step Remark} {name : String} (here : step.name? = some name)
    (session : List (Step Remark)) (answer : Answer Remark) (answers : List (Answer Remark)) :
    answersAbout name (step :: session) (answer :: answers) =
      answer :: answersAbout name session answers := by
  simp [answersAbout, here]

theorem answersAbout_cons_of_ne {step : Step Remark} {name : String}
    (elsewhere : step.name? ≠ some name) (session : List (Step Remark)) (answer : Answer Remark)
    (answers : List (Answer Remark)) : answersAbout name (step :: session) (answer :: answers) =
      answersAbout name session answers := by
  simp [answersAbout, elsewhere]

/-- All steps of a session about one name are about it. -/
theorem answersAbout_about (name : String) (session : List (Step Remark))
    (answers : List (Answer Remark)) (length : answers.length = (about name session).length) :
    answersAbout name (about name session) answers = answers := by
  have all : ((about name session).zip answers).filter (·.1.name? = some name) =
      (about name session).zip answers := by
    refine List.filter_eq_self.mpr fun entry member => ?_
    have inside := (List.mem_filter.mp (List.of_mem_zip member).1).2
    exact inside
  rw [answersAbout, all, List.map_snd_zip (Nat.le_of_eq length)]

/-! ### Whole sessions -/

theorem length_steps (session : List (Step Remark)) (state : State) :
    (steps session state).1.length = session.length := by
  induction session generalizing state with
  | nil => rfl
  | cons head tail inductionHypothesis => exact congrArg (· + 1) (inductionHypothesis _)

theorem length_run (session : List (Step Remark)) : (run session).1.length = session.length :=
  length_steps session _

theorem steps_append (first second : List (Step Remark)) (state : State) :
    steps (first ++ second) state =
      ((steps first state).1 ++ (steps second (steps first state).2).1,
        (steps second (steps first state).2).2) := by
  induction first generalizing state with
  | nil => rfl
  | cons head tail inductionHypothesis =>
    simp only [List.cons_append, steps, inductionHypothesis]

theorem Alone.steps_append (first second : List (Step Remark)) (alone : Alone) :
    Alone.steps (first ++ second) alone =
      ((Alone.steps first alone).1 ++ (Alone.steps second (Alone.steps first alone).2).1,
        (Alone.steps second (Alone.steps first alone).2).2) := by
  induction first generalizing alone with
  | nil => rfl
  | cons head tail inductionHypothesis =>
    simp only [List.cons_append, Alone.steps, inductionHypothesis]

section Parted

variable {state : State} {names : List String} {known : String → Alone}
  {figures : String → Option (Figure Address)}

/-- A step about a name gives the answer that it gives alone. -/
theorem Parted.step (parted : Parted state names known figures) (distinct : names.Nodup)
    {step : Step Remark} {name : String} (here : step.name? = some name) (member : name ∈ names) :
    StepsAlone step name state names known figures := by
  cases step with
  | create _ result =>
    cases here
    exact parted.create distinct member result
  | dump _ =>
    cases here
    exact parted.dump name
  | read _ =>
    cases here
    exact parted.read name
  | poke _ path patch =>
    cases here
    exact parted.poke distinct member path patch
  | release _ =>
    cases here
    exact parted.release distinct member
  | _ => cases here

/-- Every step of a session is about one of some names. -/
def AllNamed (names : List String) (session : List (Step Remark)) : Prop :=
  ∀ step ∈ session, ∃ name ∈ names, step.name? = some name

/-- What is known of a name after a session is what is known after the steps about it. -/
theorem Parted.steps (parted : Parted state names known figures) (distinct : names.Nodup)
    (session : List (Step Remark)) (named : AllNamed names session) :
    (∀ name, answersAbout name session (Session.steps session state).1 =
      (Alone.steps (about name session) (known name)).1) ∧
    ∃ figures, Parted (Session.steps session state).2 names
      (fun name => (Alone.steps (about name session) (known name)).2) figures := by
  induction session generalizing state known figures with
  | nil => exact ⟨fun _ => rfl, figures, parted⟩
  | cons head tail inductionHypothesis =>
    obtain ⟨headNamed, tailNamed⟩ := List.forall_mem_cons.mp named
    obtain ⟨own, member, here⟩ := headNamed
    obtain ⟨answer, next, after⟩ := parted.step distinct here member
    obtain ⟨answers, figures, final⟩ := inductionHypothesis after tailNamed
    refine ⟨fun name => ?_, figures, ?_⟩
    · have others := answers name
      by_cases same : name = own
      · subst same
        rw [Function.update_self] at others
        rw [about_cons_of_eq here, Alone.steps, Session.steps, answersAbout_cons_of_eq here, others,
          answer]
      · have elsewhere : head.name? ≠ some name := fun there =>
          same (Option.some.inj (there.symm.trans here))
        rw [Function.update_of_ne same] at others
        rw [about_cons_of_ne elsewhere, ← others, Session.steps,
          answersAbout_cons_of_ne elsewhere]
    · have knownAfter : (fun name => (Alone.steps (about name (head :: tail)) (known name)).2) =
          fun name => (Alone.steps (about name tail)
            (Function.update known own (Alone.step head (known own)).2 name)).2 := by
        funext name
        by_cases same : name = own
        · subst same
          rw [about_cons_of_eq here, Alone.steps, Function.update_self]
        · have elsewhere : head.name? ≠ some name := fun there =>
            same (Option.some.inj (there.symm.trans here))
          rw [about_cons_of_ne elsewhere, Function.update_of_ne same]
      rw [knownAfter]
      exact final

end Parted

/-! ### Reports -/

/-- What is known of a name after the steps of a session about it. -/
def knownAfter (session : List (Step Remark)) (name : String) : Alone :=
  (Alone.steps (about name session) .start).2

/-- A session reports what was counted for its names. No name has had back more than it made, if
there is no other. -/
theorem run_eq {names : List String} (distinct : names.Nodup) {session : List (Step Remark)}
    (named : AllNamed names session) :
    (∀ name, answersAbout name session (run session).1 =
      (Alone.steps (about name session) .start).1) ∧
    (counted names (knownAfter session)).releases ≤
      (counted names (knownAfter session)).allocations ∧
    (run session).2 = ⟨(counted names (knownAfter session)).allocations,
      (counted names (knownAfter session)).releases,
      (counted names (knownAfter session)).allocations -
        (counted names (knownAfter session)).releases,
      (counted names (knownAfter session)).invalidReleases⟩ := by
  obtain ⟨answers, figures, final⟩ := (parted_start names).steps distinct session named
  refine ⟨answers, ?_, Heap.closeScope_report final.settled final.scopes⟩
  have balance := final.settled.balance _ (final.scopes ▸ List.mem_singleton.mpr rfl)
  exact Nat.le.intro balance.symm

theorem allNamed_about (name : String) (session : List (Step Remark)) :
    AllNamed [name] (about name session) := by
  intro step member
  exact ⟨name, List.mem_singleton.mpr rfl, of_decide_eq_true (List.mem_filter.mp member).2⟩

theorem knownAfter_about (name : String) (session : List (Step Remark)) :
    knownAfter (about name session) name = knownAfter session name := by
  rw [knownAfter, about_about, knownAfter]

/-- The session about one name reports what is counted for it. -/
theorem run_about (name : String) (session : List (Step Remark)) :
    (run (about name session)).1 = (Alone.steps (about name session) .start).1 ∧
    (knownAfter session name).releases ≤ (knownAfter session name).allocations ∧
    (run (about name session)).2 = ⟨(knownAfter session name).allocations,
      (knownAfter session name).releases,
      (knownAfter session name).allocations - (knownAfter session name).releases,
      (knownAfter session name).invalidReleases⟩ := by
  obtain ⟨answers, less, report⟩ :=
    run_eq (List.nodup_singleton name) (allNamed_about name session)
  have own := answers name
  rw [answersAbout_about name session _ (length_run _), about_about] at own
  simp only [counted, List.map_singleton, List.sum_singleton, knownAfter_about] at less report
  exact ⟨own, less, report⟩

theorem sum_sub (names : List String) (first second : String → Nat)
    (less : ∀ name ∈ names, second name ≤ first name) :
    (names.map fun name => first name - second name).sum =
      (names.map first).sum - (names.map second).sum := by
  have split : (names.map first).sum =
      (names.map fun name => first name - second name).sum + (names.map second).sum := by
    rw [← List.sum_map_add]
    refine congrArg List.sum (List.map_congr_left fun name member => ?_)
    exact (Nat.sub_add_cancel (less name member)).symm
  rw [split, Nat.add_sub_cancel]

/-- A session reports the sum of what the sessions about each of its names report. -/
theorem report_eq_total {names : List String} (distinct : names.Nodup)
    {session : List (Step Remark)} (named : AllNamed names session) :
    (run session).2 = total (names.map fun name => (run (about name session)).2) := by
  have reports : (names.map fun name => (run (about name session)).2) = names.map fun name =>
      (⟨(knownAfter session name).allocations, (knownAfter session name).releases,
        (knownAfter session name).allocations - (knownAfter session name).releases,
        (knownAfter session name).invalidReleases⟩ : Report) :=
    List.map_congr_left fun name _ => (run_about name session).2.2
  have outstanding := sum_sub names (fun name => (knownAfter session name).allocations)
    (fun name => (knownAfter session name).releases) fun name _ => (run_about name session).2.1
  rw [(run_eq distinct named).2.2, reports, total]
  simp only [List.map_map, Function.comp_def, outstanding, counted]

/-! ### What an image says -/

/-- What is known of a name apart from which cells are outstanding and what was counted. -/
def Alone.visible (alone : Alone) : Option (Figure Unit × ParseResult) :=
  alone.image.map fun image => (image.1.unmarked, image.2)

theorem Alone.visible_eq_some {alone : Alone} {figure : Figure Unit} {origin : ParseResult}
    (shown : alone.visible = some (figure, origin)) :
    ∃ marked, alone.image = some (marked, origin) ∧ marked.unmarked = figure := by
  obtain ⟨⟨marked, made⟩, image, same⟩ := Option.map_eq_some_iff.mp shown
  cases same
  exact ⟨marked, image, rfl⟩

/-- Steps about a name get answers that depend on nothing else. -/
theorem Alone.step_congr {first second : Alone} (same : first.visible = second.visible)
    (step : Step Remark) : (Alone.step step first).1 = (Alone.step step second).1 ∧
      (Alone.step step first).2.visible = (Alone.step step second).2.visible := by
  cases shown : second.visible with
  | none =>
    have firstNone := Option.map_eq_none_iff.mp (same.trans shown)
    have secondNone := Option.map_eq_none_iff.mp shown
    cases step with
    | create name result => exact ⟨rfl, rfl⟩
    | _ => simp only [Alone.step, firstNone, secondNone, Alone.visible, Option.map_none, and_self]
  | some image =>
    obtain ⟨figure, origin⟩ := image
    obtain ⟨firstFigure, firstImage, firstSame⟩ := Alone.visible_eq_some (same.trans shown)
    obtain ⟨secondFigure, secondImage, secondSame⟩ := Alone.visible_eq_some shown
    have contents : firstFigure.content .image = secondFigure.content .image := by
      rw [← firstFigure.content_unmarked, firstSame, ← secondSame, Figure.content_unmarked]
    cases step with
    | create name result => exact ⟨rfl, rfl⟩
    | dump name =>
      simp only [Alone.step, firstImage, secondImage, contents]
      exact ⟨trivial, same⟩
    | read name =>
      simp only [Alone.step, firstImage, secondImage, Alone.read, contents]
      exact ⟨trivial, same⟩
    | poke name path patch =>
      simp only [Alone.step, firstImage, secondImage]
      rcases Figure.poke_congr (firstSame.trans secondSame.symm) true path patch with
        ⟨fault, firstDone, secondDone⟩ | ⟨new, other, firstDone, secondDone, sameNew⟩
      · rw [firstDone, secondDone]
        exact ⟨rfl, same⟩
      · rw [firstDone, secondDone]
        refine ⟨rfl, ?_⟩
        simp only [Alone.visible, Option.map_some]
        rw [sameNew]
    | _ =>
      simp only [Alone.step, firstImage, secondImage, Alone.release, Alone.visible,
        Option.map_some, Figure.unmarked_mapVisited, firstSame, secondSame, and_self]

/-- An image says the same after it was given back. -/
theorem Alone.visible_release (alone : Alone) (name : String) :
    (Alone.step (.release name : Step Remark) alone).2.visible = alone.visible := by
  cases image : alone.image with
  | none => simp only [Alone.step, image]
  | some held =>
    simp only [Alone.step, image, Alone.release, Alone.visible, Option.map_some]
    rw [Figure.unmarked_mapVisited]

/-- Every step of a list gives back an image. -/
def OnlyReleases (session : List (Step Remark)) : Prop :=
  ∀ step ∈ session, ∃ name, step = .release name

theorem OnlyReleases.visible {session : List (Step Remark)} (releases : OnlyReleases session)
    (alone : Alone) : (Alone.steps session alone).2.visible = alone.visible := by
  induction session generalizing alone with
  | nil => rfl
  | cons head tail inductionHypothesis =>
    obtain ⟨⟨name, rfl⟩, others⟩ := List.forall_mem_cons.mp releases
    exact (inductionHypothesis others _).trans (alone.visible_release name)

/-- Two sessions go on alike if all images say the same. -/
theorem Parted.answers_congr {state other : State} {names : List String}
    {known knownThere : String → Alone} {figures figuresThere : String → Option (Figure Address)}
    (parted : Parted state names known figures)
    (there : Parted other names knownThere figuresThere) (distinct : names.Nodup)
    (same : ∀ name, (known name).visible = (knownThere name).visible)
    (session : List (Step Remark)) (named : AllNamed names session) :
    (Session.steps session state).1 = (Session.steps session other).1 := by
  induction session generalizing state other known knownThere figures figuresThere with
  | nil => rfl
  | cons head tail inductionHypothesis =>
    obtain ⟨⟨own, member, here⟩, tailNamed⟩ := List.forall_mem_cons.mp named
    obtain ⟨answer, _, after⟩ := parted.step distinct here member
    obtain ⟨answerThere, _, afterThere⟩ := there.step distinct here member
    obtain ⟨answersSame, visibleSame⟩ := Alone.step_congr (same own) head
    refine congrArg₂ List.cons (answer.trans (answersSame.trans answerThere.symm))
      (inductionHypothesis after afterThere (fun name => ?_) tailNamed)
    by_cases about : name = own
    · rw [about, Function.update_self, Function.update_self]
      exact visibleSame
    · rw [Function.update_of_ne about, Function.update_of_ne about]
      exact same name

/-! ### Sessions -/

theorem nodup_namesIn (session : List (Step Remark)) : (namesIn session).Nodup :=
  List.nodup_dedup _

theorem allNamed_namesIn {session : List (Step Remark)}
    (named : ∀ step ∈ session, step.name?.isSome = true) : AllNamed (namesIn session) session := by
  intro step member
  obtain ⟨name, here⟩ := Option.isSome_iff_exists.mp (named step member)
  exact ⟨name, List.mem_dedup.mpr (List.mem_filterMap.mpr ⟨step, member, here⟩), here⟩

theorem OnlyReleases.named {session : List (Step Remark)} (releases : OnlyReleases session) :
    ∀ step ∈ session, step.name?.isSome = true := by
  intro step member
  obtain ⟨name, rfl⟩ := releases step member
  rfl

/-- The answers to the last steps of a session. -/
theorem drop_run_append (first second : List (Step Remark)) :
    (run (first ++ second)).1.drop first.length =
      (steps second (steps first State.start.openScope).2).1 := by
  have answers : (run (first ++ second)).1 = (steps first State.start.openScope).1 ++
      (steps second (steps first State.start.openScope).2).1 :=
    congrArg Prod.fst (steps_append first second _)
  rw [answers, List.drop_left' (length_steps _ _)]

/-- Giving back images changes no answer afterwards. -/
theorem drop_run_releases {before released after : List (Step Remark)}
    (named : ∀ step ∈ before ++ after, step.name?.isSome = true)
    (releases : OnlyReleases released) :
    (run (before ++ released ++ after)).1.drop (before ++ released).length =
      (run (before ++ after)).1.drop before.length := by
  have allNamed := @allNamed_namesIn Remark (before ++ released ++ after) fun step member => by
    simp only [List.mem_append] at member named
    rcases member with (first | middle) | last
    · exact named step (.inl first)
    · exact releases.named step middle
    · exact named step (.inr last)
  have distinct := nodup_namesIn (before ++ released ++ after)
  obtain ⟨firstNamed, lastNamed⟩ := List.forall_mem_append.mp allNamed
  obtain ⟨beforeNamed, -⟩ := List.forall_mem_append.mp firstNamed
  obtain ⟨-, _, parted⟩ := (parted_start _).steps distinct (before ++ released) firstNamed
  obtain ⟨-, _, there⟩ := (parted_start _).steps distinct before beforeNamed
  have same : ∀ name, (Alone.steps (about name (before ++ released)) .start).2.visible =
      (Alone.steps (about name before) .start).2.visible := by
    intro name
    have aboutReleases : OnlyReleases (about name released) := fun step member =>
      releases step (List.mem_filter.mp member).1
    rw [about, List.filter_append, Alone.steps_append]
    exact aboutReleases.visible _
  rw [drop_run_append, drop_run_append]
  exact parted.answers_congr there distinct same after lastNamed

/-- Images do not get in each other's way. Every step about a name gets the answer that it gets when
no other name occurs, and the scope reports the sum of what it reports for each name alone. Giving
back images, whichever and however often, changes no answer afterwards. -/
theorem run_apart (session : List (Step Remark))
    (named : ∀ step ∈ session, step.name?.isSome = true) :
    (∀ name, answersAbout name session (run session).1 = (run (about name session)).1) ∧
    (run session).2 = total ((namesIn session).map fun name => (run (about name session)).2) ∧
    ∀ before released after, session = before ++ after → OnlyReleases released →
      (run (before ++ released ++ after)).1.drop (before ++ released).length =
        (run session).1.drop before.length := by
  have distinct := nodup_namesIn session
  have allNamed := allNamed_namesIn named
  refine ⟨fun name => ?_, report_eq_total distinct allNamed, ?_⟩
  · rw [(run_eq distinct allNamed).1 name, (run_about name session).1]
  · rintro before released after rfl releases
    exact drop_run_releases named releases

/-- Two images take turns. One of them is given back and shown, a text of the other one is
exchanged. -/
def interleaved : List (Step Unit) :=
  [.create "first" (.valid []), .create "second" (.invalid ⟨"message", 1, 1⟩), .release "first",
    .poke "second" [.field "errorMsg"] (.text "other"), .dump "first", .release "second",
    .read "second", .release "second"]

/-- Both images are accounted for, and the exchanged text is left. -/
theorem run_apart_interleaved : (∀ step ∈ interleaved, step.name?.isSome = true) ∧
    namesIn interleaved = ["first", "second"] ∧ (run interleaved).2 = ⟨4, 3, 1, 2⟩ :=
  have named : ∀ step ∈ interleaved, step.name?.isSome = true := by decide
  ⟨named, rfl, (run_apart interleaved named).2.1.trans rfl⟩

end SqlImage.Session
