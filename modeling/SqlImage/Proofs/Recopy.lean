/-
This file says that no more can be told from an image than from the tree that is read
off it. However an image was damaged, if a tree can be read off it, an image made of
that tree says the same about the statements, and two images that read as the same
tree say the same about them. Only what is never looked at is lost: the message of a
valid result, and the statements of one that is not valid.
-/

import SqlImage.Proofs.Damage
import SqlImage.Proofs.Reread

namespace SqlImage.Image

/-! ### What is seen of a figure -/

namespace Figure

variable {Mark : Type}

theorem cut_leafContent (slot : Slot) : (leafContent slot).cut = leafContent slot := by
  cases slot with
  | sequence elements count => cases elements <;> rfl
  | _ => rfl

mutual

/-- No text that is seen of a figure that fits holds a zero character. -/
theorem cut_content : (figure : Figure Mark) → {type : FieldType} → figure.Fits type →
    (figure.content type).cut = figure.content type
  | .leaf slot, _, _ => by rw [content, cut_leafContent]
  | .text _ value, type, fits => by
    obtain ⟨rfl, -⟩ := Figure.fits_text.mp fits
    rw [Fits] at fits
    rw [content, Content.cut, fits]
  | .record _ actual fields, type, fits => by
    obtain ⟨kind, rfl, mayBe, fit⟩ := Figure.fits_record.mp fits
    obtain ⟨unseen, prefixed⟩ := fields_of_mayBeSeen mayBe
    rw [content, Content.cut, cut_fieldsContents fields (prefixed ▸ fit)]
  | .array _ count elements, type, fits => by
    obtain ⟨target, rfl, -, fit⟩ := Figure.fits_array.mp fits
    rw [content, Content.cut, cut_elementsContents elements fit]

theorem cut_fieldsContents : (figures : List (Figure Mark)) → {fields unseen : List Field} →
    FieldsFit (fields ++ unseen) figures →
    contentsCut (fieldsContents fields figures) = fieldsContents fields figures
  | [], fields, _, _ => by cases fields <;> rfl
  | head :: tail, fields, _, fit => by
    cases fields with
    | nil => rfl
    | cons field fields =>
      rw [fieldsContents, contentsCut, cut_content head fit.1, cut_fieldsContents tail fit.2]

theorem cut_elementsContents {target : Target} : (figures : List (Figure Mark)) → {count : Nat} →
    ElementsFit target figures →
    contentsCut (elementsContents target count figures) = elementsContents target count figures
  | [], count, _ => by cases count <;> rfl
  | head :: tail, count, fit => by
    cases count with
    | zero => rfl
    | succ count =>
      rw [elementsContents, contentsCut, cut_content head fit.1, cut_elementsContents tail fit.2]

end

theorem elementsContents_eq_map (target : Target) (count : Nat) (figures : List (Figure Mark)) :
    elementsContents target count figures =
      (figures.take count).map (content (.pointer target)) := by
  induction figures generalizing count with
  | nil => cases count <;> rfl
  | cons head tail inductionHypothesis =>
    cases count with
    | zero => rfl
    | succ count =>
      rw [elementsContents, inductionHypothesis, List.take_succ_cons, List.map_cons]

/-- A statement is seen as its tag says. -/
theorem laidOutByTag_content (figure : Figure Mark) :
    LaidOutByTag (figure.content (.pointer (.node .statement))) := by
  intro actual fields shown
  cases figure with
  | leaf slot =>
    cases slot with
    | sequence elements count => cases elements <;> cases shown
    | _ => cases shown
  | record mark kind figures =>
    rw [content, Content.record.injEq] at shown
    obtain ⟨rfl, rfl⟩ := shown
    cases figures with
    | nil => rfl
    | cons head tail =>
      cases head with
      | leaf slot =>
        cases slot with
        | tag ordinal =>
          simp only [seenAs, Kind.seen]
          cases tagged : Routine.ofOrdinal ordinal <;>
            simp [Kind.fields, Kind.statementFields, fieldsContents, content, leafContent,
              Kind.laidOut, tagged]
        | sequence elements count => cases elements <;> rfl
        | _ => rfl
      | _ => rfl
  | _ => cases shown

theorem laidOutByTag_of_mem {figure : Figure Mark} {elements : List Content}
    (shown : figure.content (.sequence (.node .statement)) = .list elements) :
    ∀ element ∈ elements, LaidOutByTag element := by
  intro element member
  cases figure with
  | leaf slot =>
    cases slot with
    | sequence place count =>
      cases place <;> cases shown <;> cases member
    | _ => cases shown
  | array mark count figures =>
    cases shown
    rw [elementsContents_eq_map] at member
    obtain ⟨part, -, rfl⟩ := List.mem_map.mp member
    exact part.laidOutByTag_content
  | _ => cases shown

/-- An image is seen with the fields of a result. -/
theorem content_image {figure : Figure Mark} (fits : figure.Fits .image)
    (there : ∀ slot, figure ≠ .leaf slot) :
    ∃ flag message line column, ∃ statements : Figure Mark, figure.content .image =
      .record .result
        [flag, message, line, column, statements.content (.sequence (.node .statement))] := by
  match figure, fits with
  | .leaf slot, _ => exact (there slot rfl).elim
  | .record _ actual fields, ⟨mayBe, fit⟩ =>
    have isResult : actual = .result := by
      cases actual <;> first | rfl | cases mayBe
    subst isResult
    match fields, fit with
    | [_, _, _, _, statements], _ => exact ⟨_, _, _, _, statements, rfl⟩

end Figure

/-! ### Copies -/

theorem Content.orEmpty_cut {content : Content} (whole : content.cut = content) :
    content.orEmpty.cut = content.orEmpty := by
  cases content with
  | absent => exact congrArg Content.text (by decide)
  | _ => exact whole

namespace Heap

/-- An image came about by overwriting places of an image that was just made. -/
def Reached (heap : Heap) (root : Address) : Prop :=
  ∃ (start : Heap) (result : Tree.ParseResult) (changes : List (List Key × Patch)),
    (start.store result).1 = root ∧ (start.store result).2.pokes root changes = .ok heap

variable {heap : Heap} {root : Address}

theorem Reached.shows (reached : heap.Reached root) : ∃ figure, heap.Shows root figure := by
  obtain ⟨start, result, changes, rfl, done⟩ := reached
  obtain ⟨figure, shows, -⟩ := start.shows_store result
  generalize (start.store result).2 = stored at shows done
  induction changes generalizing stored figure with
  | nil =>
    cases done
    exact ⟨figure, shows⟩
  | cons change rest inductionHypothesis =>
    obtain ⟨path, patch⟩ := change
    simp only [pokes] at done
    cases step : stored.poke (start.store result).1 path patch with
    | error fault =>
      rw [step] at done
      cases done
    | ok next =>
      rw [step] at done
      obtain ⟨new, exchanged, rewritten⟩ := shows.poke_ok step
      exact inductionHypothesis new next (shows.of_rewritten exchanged rewritten) done

/-- If a tree is read off an image, its content is what the image says, as far as it counts. -/
theorem Reached.content (reached : heap.Reached root) {result : Tree.ParseResult}
    (read : heap.read (some root) = .ok result) :
    ∃ message line column statements,
      heap.load root =
        some (.record .result [.flag result.isValid, message, line, column, statements]) ∧
      result.content = copied result.isValid message line column statements := by
  obtain ⟨figure, shows⟩ := reached.shows
  have there : ∀ slot, figure ≠ .leaf slot := by
    rintro slot rfl
    have fits := shows.fits
    have pointer : slot = .pointer (some root) := shows.slot
    rw [Figure.Fits, pointer] at fits
    cases fits
  obtain ⟨flag, message, line, column, statements, seen⟩ :=
    figure.content_image shows.fits there
  have whole := figure.cut_content shows.fits
  rw [seen] at whole
  simp only [Content.cut, contentsCut, Content.record.injEq, true_and, List.cons.injEq,
    and_true] at whole
  obtain ⟨-, messageWhole, lineWhole, columnWhole, statementsWhole⟩ := whole
  rw [shows.read, seen] at read
  split at read
  · rename_i readThere
    cases read
    obtain ⟨flagSame, same⟩ :=
      resultContent_of_read (fun _ shown => Figure.laidOutByTag_of_mem shown) readThere
    refine ⟨message, line, column, _, by rw [shows.load, seen, flagSame], same.trans ?_⟩
    unfold copied
    split <;> simp only [Content.cut, contentsCut, Content.orEmpty_cut messageWhole, lineWhole,
      columnWhole, statementsWhole]
  · cases read

/-- Keeping undoes reading. If a tree is read off a damaged image, an image that is made of the tree
says the same about the statements, or about the message if the result is not valid. Two valid
images off which the same tree is read say the same about the statements. -/
theorem Reached.store_read (reached : heap.Reached root) {result : Tree.ParseResult}
    (read : heap.read (some root) = .ok result) :
    ∃ message line column statements,
      heap.load root =
        some (.record .result [.flag result.isValid, message, line, column, statements]) ∧
      (∀ other : Heap, (other.store result).2.load (other.store result).1 =
        some (copied result.isValid message line column statements)) ∧
      ∀ (there : Heap) (place : Address), there.Reached place →
        there.read (some place) = .ok result → result.isValid = true →
        ∃ message line column, there.load place =
          some (.record .result [.flag true, message, line, column, statements]) := by
  obtain ⟨message, line, column, statements, load, content⟩ := reached.content read
  refine ⟨message, line, column, statements, load, fun other => ?_, ?_⟩
  · rw [other.load_store, content]
  · intro there place thereReached thereRead valid
    obtain ⟨otherMessage, otherLine, otherColumn, otherStatements, otherLoad, otherContent⟩ :=
      thereReached.content thereRead
    rw [content, valid] at otherContent
    rw [valid] at otherLoad
    simp only [copied, if_true, Content.record.injEq, List.cons.injEq, true_and, and_true]
      at otherContent
    exact ⟨otherMessage, otherLine, otherColumn, by rw [otherLoad, otherContent]⟩

/-- Two selects, of which the first one loses the second text of its list and the name of its
table, and the second one passes for an insert. What is read off the image tells the tree, and the
tree tells what the image says. -/
theorem store_read_damaged :
    let select : Tree.Statement := .select { Tree.Select.empty with
      fromTable := some
        { Tree.TableRef.named (some "schema") "table" with label := some ⟨"t", none⟩ }
      selectList := some [.literalString "first", .literalString "second"] }
    let root := (empty.store (.valid [select, select])).1
    let stored := (empty.store (.valid [select, select])).2
    let changes : List (List Key × Patch) :=
      [([.field "statements", .element 0, .field "selectList"], .integer 1),
        ([.field "statements", .element 0, .field "fromTable", .field "alias"], .null),
        ([.field "statements", .element 1, .field "type"], .integer 3)]
    ∃ damaged result message line column statements,
      stored.pokes root changes = .ok damaged ∧ damaged.read (some root) = .ok result ∧
      damaged.load root = some (.record .result
        [.flag result.isValid, message, line, column, statements]) ∧
      (empty.store result).2.load (empty.store result).1 =
        some (copied result.isValid message line column statements) := by
  intro select root stored changes
  have done : (match stored.pokes root changes with
    | .ok damaged => (damaged.read (some root)).isOk
    | .error _ => false) = true := by decide
  cases found : stored.pokes root changes with
  | error fault =>
    rw [found] at done
    cases done
  | ok damaged =>
    rw [found] at done
    have readable : (damaged.read (some root)).isOk = true := done
    cases read : damaged.read (some root) with
    | error fault =>
      rw [read] at readable
      cases readable
    | ok result =>
      obtain ⟨message, line, column, statements, load, again, -⟩ :=
        Reached.store_read ⟨empty, .valid [select, select], changes, rfl, found⟩ read
      exact ⟨damaged, result, message, line, column, statements, rfl, read, load, again empty⟩

end Heap

end SqlImage.Image
