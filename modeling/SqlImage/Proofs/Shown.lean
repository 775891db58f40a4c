/-
This file says what is done with an image whose figure memory shows. What is loaded
is what is seen of the figure, and giving back the image in a scope gives back the
cells that are visited, each of them once. Whether a cell is outstanding is marked
in the figure, so that what an image comes to in a scope can be said without saying
where its cells are.
-/

import SqlImage.Image.Read
import SqlImage.Proofs.Picture
import SqlImage.Proofs.Kept

namespace SqlImage.Image

/-- The type of what leads to the image of a result. -/
abbrev FieldType.image : FieldType := .pointer (.node .result)

namespace Heap

/-- Memory shows the figure of an image at a root. No cell stands in it twice. -/
structure Shows (heap : Heap) (root : Address) (figure : Figure Address) : Prop where
  slot : figure.slot = .pointer (some root)
  fits : figure.Fits .image
  depicts : heap.Depicts figure
  distinct : figure.marks.Nodup

variable {heap later : Heap} {root : Address} {figure : Figure Address}

theorem Shows.of_same (shows : heap.Shows root figure)
    (same : ∀ address ∈ figure.marks, later.cell? address = heap.cell? address) :
    later.Shows root figure :=
  ⟨shows.slot, shows.fits, shows.depicts.of_same same, shows.distinct⟩

theorem Shows.length_le (shows : heap.Shows root figure) :
    figure.marks.length ≤ heap.blocks.size :=
  shows.depicts.length_le shows.distinct

/-! ### Looking at an image -/

theorem Shows.load (shows : heap.Shows root figure) :
    heap.load root = some (figure.content .image) := by
  have loaded := Figure.load figure .image shows.depicts shows.fits
    (shows.length_le.trans (Nat.le_succ _))
  rwa [shows.slot] at loaded

theorem Shows.read (shows : heap.Shows root figure) :
    heap.read (some root) = match readResult (figure.content .image) with
      | .ok result => .ok result
      | .error fault => .error (.unreadable fault) := by
  cases result : readResult (figure.content .image) <;> simp only [Heap.read, shows.load, result]

theorem Shows.walk (shows : heap.Shows root figure) :
    ∃ walked, heap.walk root = some walked ∧
      (walked.map Prod.fst).Perm (figure.visited .image) := by
  obtain ⟨walked, found, listed⟩ := Figure.walk figure .image shows.depicts shows.fits
    (shows.length_le.trans (Nat.le_succ _))
  rw [shows.slot] at found
  exact ⟨walked, found, listed⟩

theorem Shows.visited_nodup (shows : heap.Shows root figure) :
    (figure.visited .image).Nodup :=
  shows.distinct.sublist (figure.visited_sublist .image)

/-! ### Giving back an image in a scope -/

theorem GivenBack.perm {scope : Scope} {outer : List Scope} {first second : List Address}
    (given : GivenBack heap scope outer first later) (same : first.Perm second) :
    GivenBack heap scope outer second later where
  scopes := by rw [given.scopes, same.countP_eq, same.countP_eq]
  nextScope := given.nextScope
  size := given.size
  block? address := by simp only [given.block?, same.mem_iff]

/-- What was given back is not outstanding any more. -/
theorem GivenBack.owes {scope : Scope} {outer : List Scope} {addresses : List Address}
    (given : GivenBack heap scope outer addresses later) (address : Address) :
    later.owes scope.number address =
      (decide (address ∉ addresses) && heap.owes scope.number address) := by
  by_cases back : address ∈ addresses ∧ heap.owes scope.number address = true
  · rw [Heap.owes, given.block?, if_pos back, decide_eq_false (not_not_intro back.1),
      Bool.false_and]
    cases heap.block? address with
    | none => rfl
    | some block => simp [markReleased, isOutstanding]
  · rw [Heap.owes, given.block?, if_neg back, ← Heap.owes]
    by_cases member : address ∈ addresses
    · rw [Bool.eq_false_iff.mpr fun owed => back ⟨member, owed⟩, Bool.and_false]
    · rw [decide_eq_true member, Bool.true_and]

/-- Giving back an image in a scope gives back the cells that are visited, as they are. -/
theorem Shows.release {scope : Scope} {outer : List Scope} (shows : heap.Shows root figure)
    (opened : heap.scopes = scope :: outer) :
    ∃ later, heap.release (some root) = .ok later ∧
      GivenBack heap scope outer (figure.visited .image) later := by
  obtain ⟨walked, found, listed⟩ := shows.walk
  have distinct := listed.nodup_iff.mpr shows.visited_nodup
  have there : ∀ address ∈ walked.map Prod.fst, (heap.block? address).isSome := by
    intro address member
    have inside := (figure.visited_sublist .image).subset (listed.mem_iff.mp member)
    rw [← figure.map_fst_cells] at inside
    obtain ⟨entry, entryMember, rfl⟩ := List.mem_map.mp inside
    have cell := shows.depicts entry entryMember
    obtain ⟨block, blockFound, -⟩ := Option.map_eq_some_iff.mp cell
    rw [blockFound]
    rfl
  obtain ⟨later, done, given⟩ := giveBackAll_scoped opened distinct there
  exact ⟨later, (release_eq_giveBackAll found distinct).trans done, given.perm listed⟩

/-- Every visited cell of an image that is given back is not outstanding any more. -/
theorem Shows.owes_release {scope : Scope} {outer : List Scope} (shows : heap.Shows root figure)
    (given : GivenBack heap scope outer (figure.visited .image) later) :
    figure.map (later.owes scope.number) =
      (figure.map (heap.owes scope.number)).mapVisited (fun _ => false) .image := by
  refine figure.map_eq_mapVisited .image shows.distinct ⟨fun address member => ?_,
    fun address _ missed => ?_⟩
  · rw [given.owes, decide_eq_false (not_not_intro member), Bool.false_and]
  · rw [given.owes, decide_eq_true missed, Bool.true_and]

theorem Shows.settled_release (shows : heap.Shows root figure) (settled : heap.Settled)
    (done : heap.release (some root) = .ok later) : later.Settled := by
  obtain ⟨walked, found, listed⟩ := shows.walk
  rw [release_eq_giveBackAll found (listed.nodup_iff.mpr shows.visited_nodup)] at done
  exact settled.giveBackAll done

/-! ### Making an image -/

/-- Memory shows the figure of an image that was just made. -/
theorem shows_store (heap : Heap) (result : Tree.ParseResult) :
    ∃ figure, (heap.store result).2.Shows (heap.store result).1 figure ∧
      figure.marks = List.range' heap.blocks.size result.cells ∧
      ∀ {Mark : Type} (mark : Mark), figure.map (fun _ => mark) = result.content.figure mark := by
  obtain ⟨figure, slot, depicts, marks, map⟩ := (holds_store (KeptIn.refl _)).pictured
  rw [result.content_cells] at marks
  have fits : figure.Fits .image := by
    rw [← figure.fits_map fun _ => (), map]
    exact result.content.figure_fits () result.content_sound
  exact ⟨figure, ⟨slot, fits, depicts, marks ▸ List.nodup_range'⟩, marks, map⟩

/-- What was just made is outstanding in the innermost scope, and nothing else that was not
outstanding before. -/
theorem store_owes {result : Tree.ParseResult} {number : Nat}
    (innermost : heap.innermost? = some number) (address : Address) :
    (heap.store result).2.owes number address = (heap.owes number address ||
      decide (address ∈ List.range' heap.blocks.size result.cells)) := by
  obtain ⟨cells, length, stored⟩ := heap.store_allocates result
  rw [stored, allocateAll_owes innermost, length]

end Heap

end SqlImage.Image
