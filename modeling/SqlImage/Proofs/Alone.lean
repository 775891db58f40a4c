/-
This file says what is done with the images of one name when nothing else is known
of the session. The figure of the image is all that it takes, with a mark at every
cell that is still outstanding, so there is no memory and no other name. A session
without inner scopes keeps the images of its names apart, and what it knows of each
name is what is known of it alone. The counts of the scope are the sums of what is
counted for each name.
-/

import SqlImage.Proofs.Follow
import SqlImage.Proofs.Poke
import Mathlib.Algebra.BigOperators.Group.List.Basic

namespace SqlImage.Session

open SqlImage.Image SqlImage.Tree

variable {Remark : Type}

/-- The name that a step is about. -/
def Step.name? : Step Remark → Option String
  | .create name _ => some name
  | .dump name => some name
  | .read name => some name
  | .poke name _ _ => some name
  | .release name => some name
  | _ => none

/-! ### One name alone -/

/-- What is known of one name: the figure of its image with a mark at every cell that is
outstanding, the result that the image was made from, and what was counted. -/
structure Alone where
  image : Option (Figure Bool × ParseResult)
  allocations : Nat
  releases : Nat
  invalidReleases : Nat

namespace Alone

/-- Nothing is known yet. -/
def start : Alone := ⟨none, 0, 0, 0⟩

/-- Makes an image. Of an older one nothing but the counts is left. -/
def create (alone : Alone) (result : ParseResult) : Alone :=
  { alone with
    image := some (result.content.figure true, result)
    allocations := alone.allocations + result.cells }

/-- Reads the tree off a figure. -/
def read (figure : Figure Bool) (origin : ParseResult) : Answer Remark :=
  match readResult (figure.content .image) with
  | .ok result => .read result (result.same origin)
  | .error fault => .failed (.read fault)

/-- Gives back an image. -/
def release (alone : Alone) (figure : Figure Bool) (origin : ParseResult) : Alone :=
  { alone with
    image := some (figure.mapVisited (fun _ => false) .image, origin)
    releases := alone.releases + (figure.visited .image).countP id
    invalidReleases := alone.invalidReleases + (figure.visited .image).countP (!·) }

/-- One step about the name. -/
def step : Step Remark → Alone → Answer Remark × Alone
  | .create _ result, alone =>
    (.created result.isValid result.statements.length, alone.create result)
  | step, alone =>
    match alone.image with
    | none => (.failed .noSuchSlot, alone)
    | some (figure, origin) =>
      match step with
      | .dump _ => (.dumped (figure.content .image), alone)
      | .read _ => (read figure origin, alone)
      | .poke _ path patch =>
        match figure.poke true path patch with
        | .ok new =>
          (.done, { alone with
            image := some (new, origin)
            allocations := alone.allocations + patch.cells.length })
        | .error fault => (.failed (.poke fault), alone)
      | _ => (.done, alone.release figure origin)

/-- The steps about the name one after the other. -/
def steps : List (Step Remark) → Alone → List (Answer Remark) × Alone
  | [], alone => ([], alone)
  | head :: tail, alone =>
    let (first, alone) := step head alone
    let (others, alone) := steps tail alone
    (first :: others, alone)

end Alone

/-! ### One name in memory -/

/-- A session knows of a name what is known of it alone. Its image has the cells of a figure. -/
inductive Names (state : State) (name : String) :
    Option (Figure Address) → Option (Figure Bool × ParseResult) → Prop
  | nothing (unnamed : state.slots.lookup name = none) : Names state name none none
  | image {held : Held} {figure : Figure Address} (named : state.slots.lookup name = some held)
    (there : held.gone = false) (shows : state.heap.Shows held.root figure) :
    Names state name (some figure) (some (figure.map (state.heap.owes 0), held.origin))

/-- A name is known as before as long as the cells of its image are left alone. -/
theorem Names.frame {state later : State} {name : String} {figure : Option (Figure Address)}
    {image : Option (Figure Bool × ParseResult)} (known : Names state name figure image)
    (same : later.slots.lookup name = state.slots.lookup name)
    (alone : ∀ shown ∈ figure, ∀ address ∈ shown.marks,
      later.heap.block? address = state.heap.block? address) :
    Names later name figure image := by
  cases known with
  | nothing unnamed => exact .nothing (same.trans unnamed)
  | @image held figure named there shows =>
    have blocks := alone figure rfl
    have owes : figure.map (state.heap.owes 0) = figure.map (later.heap.owes 0) :=
      Figure.map_congr figure fun address member => by
        rw [Heap.owes, Heap.owes, blocks address member]
    rw [owes]
    exact .image (same.trans named) there (shows.of_same fun address member => by
      rw [Heap.cell?, Heap.cell?, blocks address member])

/-! ### All names in memory -/

/-- The scope that has counted what was counted for some names. -/
def counted (names : List String) (known : String → Alone) : Scope :=
  ⟨0, (names.map fun name => (known name).allocations).sum,
    (names.map fun name => (known name).releases).sum,
    (names.map fun name => (known name).invalidReleases).sum⟩

/-- A session knows of every name what is known of it alone. The images of different names have no
cell in common. -/
structure Parted (state : State) (names : List String) (known : String → Alone)
    (figures : String → Option (Figure Address)) : Prop where
  scopes : state.heap.scopes = [counted names known]
  settled : state.heap.Settled
  image : ∀ name, Names state name (figures name) (known name).image
  apart : ∀ first second, first ≠ second → ∀ figure ∈ figures first, ∀ other ∈ figures second,
    figure.marks.Disjoint other.marks

theorem parted_start (names : List String) :
    Parted State.start.openScope names (fun _ => .start) fun _ => none where
  scopes := by simp [counted, Alone.start, State.start, State.openScope, Heap.openScope, Heap.empty]
  settled := Heap.settled_empty.openScope
  image name := .nothing rfl
  apart first second different figure member := (Option.not_mem_none figure member).elim

/-- The cells of another image are there already and are none of these. -/
theorem Parted.elsewhere {state : State} {names : List String} {known : String → Alone}
    {figures : String → Option (Figure Address)} (parted : Parted state names known figures)
    {name other : String} (different : other ≠ name) {shown : Figure Address}
    (here : shown ∈ figures other) {address : Address} (inside : address ∈ shown.marks) :
    address < state.heap.blocks.size ∧ ∀ before ∈ figures name, address ∉ before.marks := by
  refine ⟨?_, fun before beforeHere mine => ?_⟩
  · have image := parted.image other
    rw [Option.mem_def.mp here] at image
    generalize (known other).image = marked at image
    cases image with
    | image named there shows => exact shows.depicts.lt_size address inside
  · exact parted.apart other name different shown here before beforeHere inside mine

/-- Figures have no mark in common if one of them is exchanged for one that has none in common with
the others. -/
theorem disjoint_update {figures : String → Option (Figure Address)} {name : String}
    {figure : Option (Figure Address)}
    (apart : ∀ first second, first ≠ second → ∀ shown ∈ figures first, ∀ other ∈ figures second,
      shown.marks.Disjoint other.marks)
    (fresh : ∀ other ≠ name, ∀ shown ∈ figure, ∀ foreign ∈ figures other,
      shown.marks.Disjoint foreign.marks) (first second : String) (different : first ≠ second) :
    ∀ shown ∈ Function.update figures name figure first,
      ∀ other ∈ Function.update figures name figure second, shown.marks.Disjoint other.marks := by
  intro shown shownHere other otherHere
  by_cases firstSame : first = name
  · have secondOther : second ≠ name := fun same => different (firstSame.trans same.symm)
    rw [firstSame, Function.update_self] at shownHere
    rw [Function.update_of_ne secondOther] at otherHere
    exact fresh second secondOther shown shownHere other otherHere
  · rw [Function.update_of_ne firstSame] at shownHere
    by_cases secondSame : second = name
    · rw [secondSame, Function.update_self] at otherHere
      exact fun address inside mine =>
        fresh first firstSame other otherHere shown shownHere mine inside
    · rw [Function.update_of_ne secondSame] at otherHere
      exact apart first second different shown shownHere other otherHere

/-- More that is counted for one name is more that is counted in all. -/
theorem sum_update {names : List String} (distinct : names.Nodup) {name : String}
    (member : name ∈ names) (known : String → Alone) (alone : Alone) (count : Alone → Nat)
    {more : Nat} (here : count alone = count (known name) + more) :
    (names.map fun other => count (Function.update known name alone other)).sum =
      (names.map fun other => count (known other)).sum + more := by
  have others :
      ((names.erase name).map fun other => count (Function.update known name alone other)) =
        (names.erase name).map fun other => count (known other) := by
    refine List.map_congr_left fun other inside => ?_
    rw [Function.update_of_ne (distinct.mem_erase_iff.mp inside).1]
  rw [← List.sum_map_erase _ member, ← List.sum_map_erase (fun other => count (known other)) member,
    others, Function.update_self, here]
  omega

/-- What a step about one name comes to, if it works on the image of that name only. -/
theorem Parted.update {state later : State} {names : List String} {known : String → Alone}
    {figures : String → Option (Figure Address)} (parted : Parted state names known figures)
    (distinct : names.Nodup) {name : String} (member : name ∈ names) {alone : Alone}
    {figure : Option (Figure Address)} (image : Names later name figure alone.image)
    (others : ∀ other ≠ name, later.slots.lookup other = state.slots.lookup other)
    (blocks : ∀ address < state.heap.blocks.size,
      (∀ shown ∈ figures name, address ∉ shown.marks) →
      later.heap.block? address = state.heap.block? address)
    (new : ∀ shown ∈ figure, ∀ address ∈ shown.marks, address < state.heap.blocks.size →
      ∃ before ∈ figures name, address ∈ before.marks)
    (settled : later.heap.Settled) {allocations releases invalidReleases : Nat}
    (scopes : later.heap.scopes = [⟨0, (counted names known).allocations + allocations,
      (counted names known).releases + releases,
      (counted names known).invalidReleases + invalidReleases⟩])
    (allocated : alone.allocations = (known name).allocations + allocations)
    (released : alone.releases = (known name).releases + releases)
    (invalid : alone.invalidReleases = (known name).invalidReleases + invalidReleases) :
    Parted later names (Function.update known name alone)
      (Function.update figures name figure) := by
  constructor
  case scopes =>
    rw [scopes, counted, counted, sum_update distinct member known alone _ allocated,
      sum_update distinct member known alone _ released,
      sum_update distinct member known alone _ invalid]
  case settled => exact settled
  case image =>
    intro other
    by_cases same : other = name
    · rw [same, Function.update_self, Function.update_self]
      exact image
    · rw [Function.update_of_ne same, Function.update_of_ne same]
      refine (parted.image other).frame (others other same) fun shown shownHere address inside => ?_
      obtain ⟨older, foreign⟩ := parted.elsewhere same shownHere inside
      exact blocks address older foreign
  case apart =>
    refine disjoint_update parted.apart fun other different shown here foreign foreignHere => ?_
    intro address mine inside
    obtain ⟨older, apart⟩ := parted.elsewhere different foreignHere inside
    obtain ⟨before, beforeHere, was⟩ := new shown here address mine older
    exact apart before beforeHere was

/-- A step that changes nothing. -/
theorem Parted.unchanged {state : State} {names : List String} {known : String → Alone}
    {figures : String → Option (Figure Address)} (parted : Parted state names known figures)
    (name : String) : Parted state names (Function.update known name (known name))
      (Function.update figures name (figures name)) := by
  rwa [Function.update_eq_self, Function.update_eq_self]

/-! ### One step -/

section Step

variable {state : State} {names : List String} {known : String → Alone}
  {figures : String → Option (Figure Address)}

/-- What a step about a name does: it gives the answer that it gives alone, and what is known of the
other names stays. -/
def StepsAlone (step : Step Remark) (name : String) (state : State) (names : List String)
    (known : String → Alone) (figures : String → Option (Figure Address)) : Prop :=
  (Session.step step state).1 = (Alone.step step (known name)).1 ∧
    ∃ figure, Parted (Session.step step state).2 names
      (Function.update known name (Alone.step step (known name)).2)
      (Function.update figures name figure)

theorem Parted.innermost? (parted : Parted state names known figures) :
    state.heap.innermost? = some 0 := by
  rw [Heap.innermost?_of_scopes parted.scopes]
  rfl

theorem Parted.create (parted : Parted state names known figures) (distinct : names.Nodup)
    {name : String} (member : name ∈ names) (result : ParseResult) :
    StepsAlone (.create name result : Step Remark) name state names known figures := by
  obtain ⟨figure, shows, marks, map⟩ := state.heap.shows_store result
  have owes : figure.map ((state.heap.store result).2.owes 0) = result.content.figure true := by
    rw [← map true]
    refine Figure.map_congr figure fun address inside => ?_
    rw [Heap.store_owes parted.innermost?, ← marks, decide_eq_true inside, Bool.or_true]
  refine ⟨rfl, some figure, parted.update distinct member ?_ ?_ ?_ ?_
    (parted.settled.store result) ?_ rfl (Nat.add_zero _).symm (Nat.add_zero _).symm⟩
  · show Names _ name (some figure) (some (result.content.figure true, result))
    rw [← owes]
    exact .image (lookup_setHeld_self _ name _) rfl shows
  · intro other different
    exact lookup_setHeld_of_ne _ _ different
  · intro address older _
    exact Heap.store_block?_of_lt older
  · intro shown shownHere address inside older
    cases shownHere
    rw [marks] at inside
    exact (Nat.not_lt_of_le (List.mem_range'_1.mp inside).1 older).elim
  · have scopes := state.heap.store_scopes result
    rw [parted.scopes] at scopes
    exact scopes

/-- A name that is not known cannot be worked on, and a known one leads to its image. -/
theorem Parted.held? (parted : Parted state names known figures) (name : String) :
    state.held? name = .error .noSuchSlot ∧ (known name).image = none ∨
    ∃ held figure, state.held? name = .ok held ∧ state.slots.lookup name = some held ∧
      held.gone = false ∧ figures name = some figure ∧ state.heap.Shows held.root figure ∧
      (known name).image = some (figure.map (state.heap.owes 0), held.origin) := by
  have image := parted.image name
  generalize figures name = shown, (known name).image = alone at image ⊢
  cases image with
  | nothing unnamed => exact .inl ⟨by rw [State.held?, unnamed], rfl⟩
  | @image held figure named there shows =>
    refine .inr ⟨held, figure, ?_, named, there, rfl, shows, rfl⟩
    simp only [State.held?, named, there, Bool.false_eq_true, if_false]

theorem Parted.dump (parted : Parted state names known figures) (name : String) :
    StepsAlone (.dump name : Step Remark) name state names known figures := by
  rcases parted.held? name with ⟨unknown, none⟩ | ⟨held, figure, found, -, -, -, shows, image⟩
  · simp only [StepsAlone, Session.step, Session.dump, unknown, Alone.step, none]
    exact ⟨rfl, _, parted.unchanged name⟩
  · simp only [StepsAlone, Session.step, Session.dump, found, Alone.step, image]
    refine ⟨?_, _, parted.unchanged name⟩
    rw [Figure.content_map]
    simp only [bind, Except.bind, shows.load]
    rfl

theorem Parted.read (parted : Parted state names known figures) (name : String) :
    StepsAlone (.read name : Step Remark) name state names known figures := by
  rcases parted.held? name with ⟨unknown, none⟩ | ⟨held, figure, found, -, -, -, shows, image⟩
  · simp only [StepsAlone, Session.step, Session.read, unknown, Alone.step, none]
    exact ⟨rfl, _, parted.unchanged name⟩
  · simp only [StepsAlone, Session.step, Session.read, found, Alone.step, image]
    refine ⟨?_, _, parted.unchanged name⟩
    rw [Alone.read, Figure.content_map]
    simp only [bind, Except.bind, shows.read]
    cases readResult (figure.content .image) <;> rfl

theorem Parted.poke (parted : Parted state names known figures) (distinct : names.Nodup)
    {name : String} (member : name ∈ names) (path : List Key) (patch : Patch) :
    StepsAlone (.poke name path patch : Step Remark) name state names known figures := by
  rcases parted.held? name with
    ⟨unknown, none⟩ | ⟨held, figure, found, named, there, here, shows, image⟩
  · simp only [StepsAlone, Session.step, Session.poke, unknown, Alone.step, none]
    exact ⟨rfl, _, parted.unchanged name⟩
  · have agrees := shows.agrees_poke path patch
    have alone := @Heap.Shows.poke_map_owes _ _ _ patch path shows 0
    cases done : figure.poke state.heap.blocks.size path patch with
    | error fault =>
      rw [done] at agrees alone
      have failed : Session.poke state name path patch = .error (.poke fault) := by
        have refused : state.heap.poke held.root path patch = .error fault := agrees
        simp only [Session.poke, found, bind, Except.bind, refused]
        rfl
      simp only [StepsAlone, Session.step, failed, Alone.step, image, alone, Except.map]
      exact ⟨trivial, _, parted.unchanged name⟩
    | ok new =>
      rw [done] at agrees alone
      obtain ⟨later, inMemory, rewritten⟩ := agrees
      have changed : Session.poke state name path patch = .ok { state with heap := later } := by
        simp only [Session.poke, found, bind, Except.bind, inMemory]
        rfl
      simp only [StepsAlone, Session.step, changed, Alone.step, image, alone, Except.map]
      refine ⟨trivial, some new, parted.update distinct member ?_ (fun _ _ => rfl) ?_ ?_
        (rewritten.settled parted.settled) ?_ rfl (Nat.add_zero _).symm (Nat.add_zero _).symm⟩
      · rw [shows.owes_poke parted.innermost? done rewritten]
        exact .image named there (shows.of_rewritten done rewritten)
      · intro address older other
        exact rewritten.block? older (other figure here)
      · intro shown shownHere address inside older
        cases shownHere
        obtain ⟨-, lost, exchanged⟩ := shows.marks_poke done
        have member := exchanged.subset (List.mem_append_left _ inside)
        refine ⟨figure, here, (List.mem_append.mp member).resolve_right fun fresh => ?_⟩
        cases patch with
        | text value => exact Nat.ne_of_lt older (List.mem_singleton.mp fresh)
        | _ => cases fresh
      · have scopes := rewritten.scopes
        rw [parted.scopes] at scopes
        exact scopes

theorem Parted.release (parted : Parted state names known figures) (distinct : names.Nodup)
    {name : String} (member : name ∈ names) :
    StepsAlone (.release name : Step Remark) name state names known figures := by
  rcases parted.held? name with
    ⟨unknown, none⟩ | ⟨held, figure, found, named, there, here, shows, image⟩
  · simp only [StepsAlone, Session.step, State.release, unknown, Alone.step, none]
    exact ⟨rfl, _, parted.unchanged name⟩
  · obtain ⟨later, done, given⟩ := shows.release parted.scopes
    have stepped := release_eq_ok named there done
    simp only [StepsAlone, Session.step, stepped, Alone.step, image]
    have owes : figure.map (later.owes 0) =
        (figure.map (state.heap.owes 0)).mapVisited (fun _ => false) .image :=
      shows.owes_release given
    refine ⟨trivial, some figure, parted.update distinct member ?_ ?_ ?_ ?_
      (shows.settled_release parted.settled done) ?_ (Nat.add_zero _).symm rfl rfl⟩
    · show Names _ name (some figure) (some (_, held.origin))
      rw [← owes]
      let again := held.released || decide (held.scope = state.heap.innermost?)
      exact @Names.image _ name { held with released := again } figure
        (lookup_setHeld_self _ name _) there (shows.of_same fun address _ => given.cell? address)
    · intro other different
      exact lookup_setHeld_of_ne _ _ different
    · intro address _ other
      exact given.block?_of_notMem fun member =>
        other figure here ((figure.visited_sublist .image).subset member)
    · intro shown shownHere address inside _
      cases shownHere
      exact ⟨figure, here, inside⟩
    · rw [Figure.visited_map, List.countP_map, List.countP_map]
      exact given.scopes

end Step

end SqlImage.Session
