/-
This file says which figure an image has that was just kept. It is the figure of
what the image says: it fits, all of it is seen, and all its cells are visited. Its
cells are those that were made for the image, and nothing else is among them.
-/

import SqlImage.Proofs.Depict

namespace SqlImage.Image

variable {Mark : Type}

/-! ### The figure of a content -/

mutual

/-- The figure of a content that has just been kept. All its cells carry the same mark. -/
def Content.figure (mark : Mark) : Content → Figure Mark
  | .tag ordinal => .leaf (.tag ordinal)
  | .flag value => .leaf (.flag value)
  | .place value => .leaf (.place value)
  | .int value => .leaf (.int value)
  | .size value => .leaf (.size value)
  | .double value => .leaf (.double value)
  | .absent => .leaf (.pointer none)
  | .text value => .text mark value
  | .record kind fields => .record mark kind (contentsFigures mark fields)
  | .noList => .leaf (.sequence .absent 0)
  | .list [] => .leaf (.sequence .empty 0)
  | .list (head :: tail) =>
    .array mark (tail.length + 1) (head.figure mark :: contentsFigures mark tail)

/-- The figures of several contents that have just been kept. -/
def contentsFigures (mark : Mark) : List Content → List (Figure Mark)
  | [] => []
  | head :: tail => head.figure mark :: contentsFigures mark tail

end

theorem length_contentsFigures (mark : Mark) (contents : List Content) :
    (contentsFigures mark contents).length = contents.length := by
  induction contents with
  | nil => rfl
  | cons head tail inductionHypothesis => exact congrArg (· + 1) inductionHypothesis

/-! ### What is seen of it -/

theorem seenAs_contentsFigures (mark : Mark) (kind : Kind) (fields : List Content) :
    Figure.seenAs kind (contentsFigures mark fields) = kind.laidOut fields := by
  cases kind <;> try rfl
  cases fields with
  | nil => rfl
  | cons head tail =>
    cases head with
    | list elements => cases elements <;> rfl
    | _ => rfl

mutual

/-- The figure of a sound content fits. -/
theorem Content.figure_fits (mark : Mark) : (content : Content) → {type : FieldType} →
    content.Sound type → (content.figure mark).Fits type
  | .record actual fields, type, sound => by
    match type, sound with
    | .pointer (.node kind), ⟨laidOut, sound⟩ =>
      rw [Content.figure, Figure.Fits, seenAs_contentsFigures, laidOut]
      exact ⟨by simp only [Kind.mayBeSeen, decide_true, Bool.true_or],
        contentsFigures_fieldsFit mark fields sound⟩
  | .list [], type, sound => by cases type <;> first | rfl | exact sound.elim
  | .list (head :: tail), type, sound => by
    match type, sound with
    | .sequence target, sound =>
      rw [Content.figure, Figure.Fits, List.length_cons, length_contentsFigures]
      exact ⟨Nat.le_refl _, head.figure_fits mark sound.1.2,
        contentsFigures_elementsFit mark tail sound.2⟩
  | .text value, type, sound => by
    match type, sound with
    | .pointer .text, sound => exact sound
  | .tag _, type, sound | .flag _, type, sound | .place _, type, sound | .int _, type, sound
  | .size _, type, sound | .double _, type, sound | .absent, type, sound
  | .noList, type, sound => by
    cases type <;> first | rfl | exact sound.elim

theorem contentsFigures_fieldsFit (mark : Mark) : (contents : List Content) → {kind : Kind} →
    {fields : List Field} → FieldsSound kind fields contents →
    Figure.FieldsFit fields (contentsFigures mark contents)
  | [], _, fields, sound => by
    cases fields with
    | nil => exact trivial
    | cons field fields => exact sound.elim
  | head :: tail, _, fields, sound => by
    cases fields with
    | nil => exact sound.elim
    | cons field fields =>
      exact ⟨head.figure_fits mark sound.1.1, contentsFigures_fieldsFit mark tail sound.2⟩

theorem contentsFigures_elementsFit (mark : Mark) : (contents : List Content) →
    {target : Target} → ElementsSound target contents →
    Figure.ElementsFit target (contentsFigures mark contents)
  | [], _, _ => trivial
  | head :: tail, _, sound =>
    ⟨head.figure_fits mark sound.1.2, contentsFigures_elementsFit mark tail sound.2⟩

end

mutual

/-- A sound content is seen in its figure. -/
theorem Content.content_figure (mark : Mark) : (content : Content) → {type : FieldType} →
    content.Sound type → (content.figure mark).content type = content
  | .record actual fields, type, sound => by
    match type, sound with
    | .pointer (.node kind), ⟨laidOut, sound⟩ =>
      rw [Content.figure, Figure.content, seenAs_contentsFigures, laidOut,
        fieldsContents_contentsFigures mark fields sound]
  | .list [], type, _ => by cases type <;> rfl
  | .list (head :: tail), type, sound => by
    match type, sound with
    | .sequence target, sound =>
      rw [Content.figure, Figure.content, Figure.elementsContents,
        head.content_figure mark sound.1.2, elementsContents_contentsFigures mark tail sound.2]
  | .text value, type, _ => by simp only [Content.figure, Figure.content]
  | .tag _, type, _ | .flag _, type, _ | .place _, type, _ | .int _, type, _ | .size _, type, _
  | .double _, type, _ | .absent, type, _ | .noList, type, _ => by
    cases type <;> rfl

theorem fieldsContents_contentsFigures (mark : Mark) : (contents : List Content) →
    {kind : Kind} → {fields : List Field} → FieldsSound kind fields contents →
    Figure.fieldsContents fields (contentsFigures mark contents) = contents
  | [], _, fields, _ => by cases fields <;> rfl
  | head :: tail, _, fields, sound => by
    cases fields with
    | nil => exact sound.elim
    | cons field fields =>
      rw [contentsFigures, Figure.fieldsContents, head.content_figure mark sound.1.1,
        fieldsContents_contentsFigures mark tail sound.2]

theorem elementsContents_contentsFigures (mark : Mark) : (contents : List Content) →
    {target : Target} → ElementsSound target contents →
    Figure.elementsContents target contents.length (contentsFigures mark contents) = contents
  | [], _, _ => rfl
  | head :: tail, _, sound => by
    rw [contentsFigures, List.length_cons, Figure.elementsContents,
      head.content_figure mark sound.1.2, elementsContents_contentsFigures mark tail sound.2]

end

mutual

/-- All cells of a content that was just kept are visited. -/
theorem Content.visited_figure (mark : Mark) : (content : Content) → {type : FieldType} →
    content.Sound type → (content.figure mark).visited type = (content.figure mark).marks
  | .record actual fields, type, sound => by
    match type, sound with
    | .pointer (.node kind), ⟨laidOut, sound⟩ =>
      rw [Content.figure, Figure.visited, seenAs_contentsFigures, laidOut,
        fieldsVisited_contentsFigures mark fields sound, Figure.marks]
  | .list [], type, _ => by simp only [Content.figure, Figure.visited, Figure.marks]
  | .list (head :: tail), type, sound => by
    match type, sound with
    | .sequence target, sound =>
      rw [Content.figure, Figure.visited, Figure.elementsVisited,
        head.visited_figure mark sound.1.2, elementsVisited_contentsFigures mark tail sound.2,
        if_neg (Nat.succ_ne_zero _), Figure.marks, Figure.marksAll]
  | .text value, type, _ => by simp only [Content.figure, Figure.visited, Figure.marks]
  | .tag _, type, _ | .flag _, type, _ | .place _, type, _ | .int _, type, _ | .size _, type, _
  | .double _, type, _ | .absent, type, _ | .noList, type, _ => by
    simp only [Content.figure, Figure.visited, Figure.marks]

theorem fieldsVisited_contentsFigures (mark : Mark) : (contents : List Content) →
    {kind : Kind} → {fields : List Field} → FieldsSound kind fields contents →
    Figure.fieldsVisited fields (contentsFigures mark contents) =
      Figure.marksAll (contentsFigures mark contents)
  | [], _, fields, _ => by cases fields <;> rfl
  | head :: tail, _, fields, sound => by
    cases fields with
    | nil => exact sound.elim
    | cons field fields =>
      rw [contentsFigures, Figure.fieldsVisited, head.visited_figure mark sound.1.1,
        fieldsVisited_contentsFigures mark tail sound.2, Figure.marksAll]

theorem elementsVisited_contentsFigures (mark : Mark) : (contents : List Content) →
    {target : Target} → ElementsSound target contents →
    Figure.elementsVisited target contents.length (contentsFigures mark contents) =
      Figure.marksAll (contentsFigures mark contents)
  | [], _, _ => rfl
  | head :: tail, _, sound => by
    rw [contentsFigures, List.length_cons, Figure.elementsVisited,
      head.visited_figure mark sound.1.2, elementsVisited_contentsFigures mark tail sound.2,
      Figure.marksAll]

end

/-! ### Memory that holds a content -/

section Held

variable {heap : Heap}

/-- A figure shows a content in the cells from `start` on. -/
structure Pictures (heap : Heap) (content : Content) (slot : Slot) (start : Address)
    (figure : Figure Address) : Prop where
  slot : figure.slot = slot
  depicts : heap.Depicts figure
  marks : figure.marks = List.range' start content.cells
  map : ∀ {Mark : Type} (mark : Mark), figure.map (fun _ => mark) = content.figure mark

theorem Pictures.leaf {content : Content} {slot : Slot} {start : Address}
    (cells : content.cells = 0) (figure : ∀ {Mark : Type} (mark : Mark),
      content.figure mark = .leaf slot) : Pictures heap content slot start (.leaf slot) where
  slot := rfl
  depicts := fun _ member => (List.not_mem_nil member).elim
  marks := by rw [cells, Figure.marks, List.range'_zero]
  map mark := (figure mark).symm

mutual

/-- Memory that holds a content shows a figure of it. -/
theorem Holds.pictured {content : Content} {slot : Slot} {start : Address} :
    Holds heap content slot start → ∃ figure, Pictures heap content slot start figure
  | .tag _ _ | .flag _ _ | .place _ _ | .int _ _ | .size _ _ | .double _ _ | .absent _ | .noList _
  | .emptyList _ => ⟨_, .leaf rfl fun _ => rfl⟩
  | @Holds.text _ value start cell =>
    ⟨.text start value, rfl, Heap.depicts_text.mpr cell, rfl, fun _ => rfl⟩
  | @Holds.record _ kind fields _ start below cell => by
    obtain ⟨figures, rfl, depicts, marks, map⟩ := below.pictured
    refine ⟨.record (start + contentsCells fields) kind figures, rfl,
      Heap.depicts_record.mpr ⟨depicts, cell⟩, ?_, fun mark => ?_⟩
    · rw [Figure.marks, marks, Content.cells, Nat.add_comm 1, List.range'_1_concat]
    · rw [Figure.map, map mark, Content.figure]
  | @Holds.list _ head tail _ start below cell => by
    have length := below.length
    obtain ⟨figures, rfl, depicts, marks, map⟩ := below.pictured
    rw [List.map_map] at cell
    refine ⟨.array (start + contentsCells (head :: tail)) figures.length figures, ?_,
      Heap.depicts_array.mpr ⟨depicts, cell⟩, ?_, fun mark => ?_⟩
    · rw [Figure.slot_array, List.length_map]
    · rw [Figure.marks, marks, Content.cells, Nat.add_assoc 1, Nat.add_comm 1,
        List.range'_1_concat, contentsCells]
    · rw [List.length_map] at length
      rw [Figure.map, map mark, length, List.length_cons, Content.figure, contentsFigures]

theorem HoldsAll.pictured {contents : List Content} {slots : List Slot} {start : Address} :
    HoldsAll heap contents slots start → ∃ figures : List (Figure Address),
      figures.map Figure.slot = slots ∧ heap.DepictsAll figures ∧
      Figure.marksAll figures = List.range' start (contentsCells contents) ∧
      ∀ {Mark : Type} (mark : Mark),
        Figure.mapAll (fun _ => mark) figures = contentsFigures mark contents
  | .nil _ => ⟨[], rfl, fun _ member => (List.not_mem_nil member).elim, rfl, fun _ => rfl⟩
  | .cons first others => by
    obtain ⟨figure, rfl, depicts, marks, map⟩ := first.pictured
    obtain ⟨figures, rfl, allDepicts, allMarks, allMap⟩ := others.pictured
    refine ⟨figure :: figures, rfl, Heap.depictsAll_cons.mpr ⟨depicts, allDepicts⟩, ?_,
      fun mark => ?_⟩
    · rw [Figure.marksAll, marks, allMarks, contentsCells, List.range'_append_1]
    · rw [Figure.mapAll, map mark, allMap mark, contentsFigures]

end

end Held

end SqlImage.Image
