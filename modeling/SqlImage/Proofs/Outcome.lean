/-
This file takes computations apart that end with a value or a cause. If two steps
succeed one after the other, each of them does, and what every step is known to
give carries over to what they give together. The same holds of two computations
side by side, if whatever the first one makes is known to stand for something that
the second one gives.
-/

import SqlImage.Lowering.Leaf

namespace SqlImage

section Except

variable {ε α β : Type}

theorem bind_eq_ok {run : Except ε α} {next : α → Except ε β} {value : β} :
    (run >>= next) = .ok value ↔ ∃ first, run = .ok first ∧ next first = .ok value := by
  cases run with
  | error cause => exact ⟨nofun, nofun⟩
  | ok first =>
    refine ⟨fun done => ⟨first, rfl, done⟩, ?_⟩
    rintro ⟨_, same, done⟩
    cases same
    exact done

theorem map_eq_ok {run : Except ε α} {change : α → β} {value : β} :
    run.map change = .ok value ↔ ∃ first, run = .ok first ∧ change first = value := by
  cases run with
  | error cause => exact ⟨nofun, nofun⟩
  | ok first =>
    refine ⟨fun done => ⟨first, rfl, Except.ok.inj done⟩, ?_⟩
    rintro ⟨_, same, changed⟩
    cases same
    exact congrArg Except.ok changed

/-- Another cause for what fails leaves what succeeds as it is. -/
theorem mapError_eq_ok {δ : Type} {run : Except ε α} {change : ε → δ} {value : α} :
    run.mapError change = .ok value ↔ run = .ok value := by
  cases run with
  | error cause => exact ⟨nofun, nofun⟩
  | ok made => exact ⟨fun same => congrArg Except.ok (Except.ok.inj same), congrArg _⟩

theorem pure_eq_ok {value other : α} : (pure value : Except ε α) = .ok other ↔ value = other :=
  ⟨Except.ok.inj, congrArg Except.ok⟩

end Except

namespace Lowering

variable {α β : Type} {property : α → Prop} {result : β → Prop}

/-- Two steps succeed if the first one does and the second one goes on with what it made and with
the placeholders that it left. -/
theorem run_bind_eq_ok {run : Lowering α} {next : α → Lowering β} {before after : Nat} {made : β} :
    (run >>= next) before = .ok (made, after) ↔
      ∃ part middle, run before = .ok (part, middle) ∧ next part middle = .ok (made, after) := by
  refine bind_eq_ok.trans ⟨?_, ?_⟩
  · rintro ⟨⟨part, middle⟩, found, rest⟩
    exact ⟨part, middle, found, rest⟩
  · rintro ⟨part, middle, found, rest⟩
    exact ⟨(part, middle), found, rest⟩

/-- What counts no placeholder leaves their number as it is. -/
theorem run_lift_eq_ok {made : Except Unsupported α} {before after : Nat} {value : α} :
    (liftM made : Lowering α) before = .ok (value, after) ↔ after = before ∧ made = .ok value := by
  refine bind_eq_ok.trans ⟨?_, ?_⟩
  · rintro ⟨inner, found, same⟩
    cases same
    exact ⟨rfl, found⟩
  · rintro ⟨rfl, found⟩
    exact ⟨value, found, rfl⟩

/-- Whatever is made has a property, however many placeholders there were before. -/
def Makes {α : Type} (run : Lowering α) (property : α → Prop) : Prop :=
  ∀ before made after, run before = .ok (made, after) → property made

theorem makes_pure {value : α} (holds : property value) : Makes (pure value) property := by
  rintro before _ _ ⟨⟩
  exact holds

theorem makes_refuse (cause : Unsupported) : Makes (refuse cause) property := nofun

theorem makes_any (run : Lowering α) : Makes run fun _ => True := fun _ _ _ _ => trivial

theorem makes_itself (run : Lowering α) :
    Makes run fun made => ∃ before after, run before = .ok (made, after) :=
  fun before _ after done => ⟨before, after, done⟩

theorem Makes.mono {run : Lowering α} {weaker : α → Prop} (makes : Makes run property)
    (implies : ∀ made, property made → weaker made) : Makes run weaker :=
  fun before made after done => implies made (makes before made after done)

theorem Makes.and {run : Lowering α} {other : α → Prop} (makes : Makes run property)
    (makesOther : Makes run other) : Makes run fun made => property made ∧ other made :=
  fun before made after done =>
    ⟨makes before made after done, makesOther before made after done⟩

theorem Makes.bind {run : Lowering α} {next : α → Lowering β} (first : Makes run property)
    (second : ∀ value, property value → Makes (next value) result) :
    Makes (run >>= next) result := by
  intro before made after done
  obtain ⟨value, middle, found, rest⟩ := run_bind_eq_ok.mp done
  exact second value (first before value middle found) middle made after rest

theorem Makes.of_run {run : Lowering α} (makes : Makes run property) {before : Nat} {value : α}
    (done : run.run' before = .ok value) : property value := by
  cases found : run before with
  | error cause =>
    rw [StateT.run', found] at done
    cases done
  | ok outcome =>
    rw [StateT.run', found] at done
    cases done
    exact makes before outcome.1 outcome.2 found

theorem makes_lift {made : Except Unsupported α}
    (holds : ∀ value, made = .ok value → property value) : Makes (liftM made) property := by
  intro before value after done
  exact holds value (run_lift_eq_ok.mp done).2

section Refusal

variable {cause : Unsupported} {checked : Bool} {rest : Unit → Lowering β}

theorem makes_refuse_bind : Makes (refuse cause >>= rest) result :=
  (makes_refuse cause).bind fun _ (impossible : False) => impossible.elim

/-- What is made only if a check succeeds. -/
theorem makes_of_check (holds : Makes (rest ()) result) :
    Makes (if checked = true then rest () else refuse cause >>= rest) result := by
  split
  · exact holds
  · exact makes_refuse_bind

/-- What is made only if nothing has to be refused. -/
theorem makes_of_objection (holds : Makes (rest ()) result) :
    Makes (if checked = true then refuse cause >>= rest else rest ()) result := by
  split
  · exact makes_refuse_bind
  · exact holds

end Refusal

/-! ### Two computations side by side -/

section Keeps

variable {γ δ : Type} {m : Type → Type} [Monad m] {stands : α → β → Prop} {both : γ → δ → Prop}

/-- Whatever is made stands for what another computation gives, and both count the same
placeholders. -/
def Keeps {α β : Type} {m : Type → Type} [Monad m] (run : Lowering α) (beside : StateT Nat m β)
    (stands : α → β → Prop) : Prop :=
  ∀ before made after, run before = .ok (made, after) →
    ∃ value, stands made value ∧ beside before = pure (value, after)

/-- Whatever is made has a property, and no placeholder is counted. -/
def Steady {α : Type} (run : Lowering α) (property : α → Prop) : Prop :=
  ∀ before made after, run before = .ok (made, after) → after = before ∧ property made

theorem keeps_pure {made : α} {value : β} (same : stands made value) :
    Keeps (m := m) (pure made) (pure value) stands := by
  rintro before _ _ ⟨⟩
  exact ⟨value, same, rfl⟩

theorem keeps_refuse {beside : StateT Nat m β} (cause : Unsupported) :
    Keeps (refuse cause) beside stands := nofun

theorem Keeps.bind [LawfulMonad m] {run : Lowering α} {beside : StateT Nat m β}
    {next : α → Lowering γ} {besideNext : β → StateT Nat m δ} (first : Keeps run beside stands)
    (second : ∀ made value, stands made value → Keeps (next made) (besideNext value) both) :
    Keeps (run >>= next) (beside >>= besideNext) both := by
  intro before made after done
  obtain ⟨part, middle, partMade, rest⟩ := run_bind_eq_ok.mp done
  obtain ⟨value, same, found⟩ := first before part middle partMade
  obtain ⟨whole, wholeSame, wholeFound⟩ := second part value same middle made after rest
  refine ⟨whole, wholeSame, ?_⟩
  calc (beside >>= besideNext) before
      = (beside before >>= fun outcome => besideNext outcome.1 outcome.2) := rfl
    _ = besideNext value middle := by rw [found, pure_bind]
    _ = pure (whole, after) := wholeFound

/-- What stands beside may be put into something else. -/
theorem Keeps.map [LawfulMonad m] {run : Lowering α} {beside : StateT Nat m β} {change : β → δ}
    {changed : α → δ → Prop} (keeps : Keeps run beside stands)
    (same : ∀ made value, stands made value → changed made (change value)) :
    Keeps run (beside >>= fun value => pure (change value)) changed := by
  have mapped := keeps.bind fun made value holds => keeps_pure (m := m) (same made value holds)
  rwa [bind_pure] at mapped

theorem steady_pure {value : α} (holds : property value) : Steady (pure value) property := by
  rintro before _ _ ⟨⟩
  exact ⟨rfl, holds⟩

theorem steady_refuse (cause : Unsupported) : Steady (refuse cause) property := nofun

theorem steady_lift {made : Except Unsupported α}
    (holds : ∀ value, made = .ok value → property value) : Steady (liftM made) property := by
  intro before value after done
  exact (run_lift_eq_ok.mp done).imp_right (holds value)

theorem Steady.bind {run : Lowering α} {next : α → Lowering β} (first : Steady run property)
    (second : ∀ made, property made → Steady (next made) result) :
    Steady (run >>= next) result := by
  intro before made after done
  obtain ⟨part, middle, partMade, rest⟩ := run_bind_eq_ok.mp done
  obtain ⟨rfl, holds⟩ := first before part middle partMade
  exact second part holds middle made after rest

theorem Steady.makes {run : Lowering α} (steady : Steady run property) : Makes run property :=
  fun before made after done => (steady before made after done).2

/-- A step that counts no placeholder may have nothing beside it. -/
theorem Steady.bind_keeps {run : Lowering α} {next : α → Lowering γ} {beside : StateT Nat m δ}
    (first : Steady run property)
    (second : ∀ made, property made → Keeps (next made) beside both) :
    Keeps (run >>= next) beside both := by
  intro before made after done
  obtain ⟨part, middle, partMade, rest⟩ := run_bind_eq_ok.mp done
  obtain ⟨rfl, holds⟩ := first before part middle partMade
  exact second part holds middle made after rest

theorem Steady.keeps {run : Lowering α} {value : β} (steady : Steady run property)
    (same : ∀ made, property made → stands made value) :
    Keeps (m := m) run (pure value) stands := by
  intro before made after done
  obtain ⟨rfl, holds⟩ := steady before made after done
  exact ⟨value, same made holds, rfl⟩

/-- What is made only if a check succeeds. -/
theorem keeps_of_check {cause : Unsupported} {checked : Bool} {rest : Unit → Lowering α}
    {beside : StateT Nat m β} (holds : checked = true → Keeps (rest ()) beside stands) :
    Keeps (if checked = true then rest () else refuse cause >>= rest) beside stands := by
  split
  · rename_i succeeds
    exact holds succeeds
  · exact nofun

/-- What is made only if nothing has to be refused. -/
theorem keeps_of_objection {cause : Unsupported} {checked : Bool} {rest : Unit → Lowering α}
    {beside : StateT Nat m β} (holds : checked = false → Keeps (rest ()) beside stands) :
    Keeps (if checked = true then refuse cause >>= rest else rest ()) beside stands := by
  split
  · exact nofun
  · rename_i fails
    exact holds (Bool.not_eq_true _ ▸ fails)

end Keeps

end Lowering

end SqlImage
