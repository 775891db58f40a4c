/-
This file leads from a position back to the characters before it. Reading a text
one character at a time and counting the starts of its lines go side by side: the
line reached is the last one that has started, and its start and the column
reached add up to the characters read. Reading on adds lines behind this one and
changes none before it, so the index of a whole text gives for the position of any
character just the number of characters before that one.
-/

import Mathlib.Data.List.Induction
import SqlImage.Text.Position

namespace SqlImage

namespace Position

theorem after_append (text more : List Char) :
    after (text ++ more) = more.foldl advance (after text) := List.foldl_append

theorem after_concat (text : List Char) (character : Char) :
    after (text ++ [character]) = (after text).advance character := after_append text [character]

end Position

namespace LineIndex

open Position

theorem ofText_concat (text : List Char) (character : Char) :
    ofText (text ++ [character]) = (ofText text).extend character := List.foldl_append

theorem total_extend (index : LineIndex) (character : Char) :
    (index.extend character).total = index.total + 1 := by
  unfold extend
  split <;> rfl

theorem total_ofText (text : List Char) : (ofText text).total = text.length := by
  induction text using List.reverseRecOn with
  | nil => rfl
  | append_singleton text character inductionHypothesis =>
    rw [ofText_concat, total_extend, inductionHypothesis, List.length_append,
      List.length_singleton]

/-! ### The line that is reached -/

/-- The line reached is the last one of the index, and its start and the column reached add up to
the characters read. -/
structure LastLine (text : List Char) : Prop where
  line_eq : (after text).line = (ofText text).starts.size
  line_pos : 0 < (after text).line
  column_pos : 0 < (after text).column
  start_add : (ofText text).starts[(after text).line - 1]?.map (· + ((after text).column - 1)) =
    some text.length

theorem lastLine_ofText (text : List Char) : LastLine text := by
  induction text using List.reverseRecOn with
  | nil => exact ⟨rfl, Nat.one_pos, Nat.one_pos, rfl⟩
  | append_singleton text character inductionHypothesis =>
    obtain ⟨lineEq, linePos, columnPos, startAdd⟩ := inductionHypothesis
    obtain ⟨lineStart, found, startEq⟩ := Option.map_eq_some_iff.mp startAdd
    by_cases newline : character = '\n'
    · have advanced : after (text ++ [character]) = ⟨(after text).line + 1, 1⟩ := by
        rw [after_concat, advance, if_pos newline]
      have extended : (ofText (text ++ [character])).starts =
          (ofText text).starts.push (text.length + 1) := by
        rw [ofText_concat, extend, if_pos newline, total_ofText]
      refine ⟨?_, ?_, ?_, ?_⟩ <;> rw [advanced]
      · rw [extended, Array.size_push, lineEq]
      · exact Nat.succ_pos _
      · exact Nat.one_pos
      · rw [extended, Nat.add_sub_cancel, lineEq, Array.getElem?_push_size]
        simp
    · have advanced : after (text ++ [character]) =
          ⟨(after text).line, (after text).column + 1⟩ := by
        rw [after_concat, advance, if_neg newline]
      have extended : (ofText (text ++ [character])).starts = (ofText text).starts := by
        rw [ofText_concat, extend, if_neg newline]
      refine ⟨?_, ?_, ?_, ?_⟩ <;> rw [advanced]
      · rw [extended, lineEq]
      · exact linePos
      · exact Nat.succ_pos _
      · rw [extended, found, Option.map_some, List.length_append, List.length_singleton,
          ← startEq]
        congr 1
        dsimp only
        omega

/-! ### Reading on -/

/-- The start of a line stays what it is when more is read. -/
theorem starts_append (text more : List Char) {line : Nat}
    (started : line < (ofText text).starts.size) :
    (ofText (text ++ more)).starts[line]? = (ofText text).starts[line]? := by
  induction more using List.reverseRecOn with
  | nil => rw [List.append_nil]
  | append_singleton more character inductionHypothesis =>
    have known : (ofText (text ++ more)).starts[line]? = some ((ofText text).starts[line]) := by
      rw [inductionHypothesis, Array.getElem?_eq_getElem started]
    have kept : line < (ofText (text ++ more)).starts.size :=
      (Array.getElem?_eq_some_iff.mp known).1
    rw [← List.append_assoc, ofText_concat, ← inductionHypothesis]
    unfold extend
    split
    · rw [Array.getElem?_push_lt kept, Array.getElem?_eq_getElem kept]
    · rfl

/-- The index of a text gives for the position behind any of its beginnings the length of that
beginning. -/
theorem offset_after (before rest : List Char) :
    (ofText (before ++ rest)).offset (after before) = before.length := by
  obtain ⟨lineEq, linePos, -, startAdd⟩ := lastLine_ofText before
  obtain ⟨lineStart, found, startEq⟩ := Option.map_eq_some_iff.mp startAdd
  have started : (after before).line - 1 < (ofText before).starts.size := by omega
  rw [offset, starts_append before rest started, found]
  dsimp only
  rw [startEq, total_ofText, List.length_append]
  exact Nat.min_eq_left (Nat.le_add_right _ _)

end LineIndex

end SqlImage
