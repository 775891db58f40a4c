/-
This file says that the ways to count places in a text agree. A place is counted
while the text is read, counted again from the newlines of what was read, and led
back to an offset by the starts of the lines. Behind any beginning of a text all
three tell the same: the line and column reached are those counted again, and the
offset that they lead to is the length of the beginning. The offset of any other
place lies within the text, and in a text that is not too long no line or column is
cut off by its width.
-/

import Mathlib.Algebra.GroupWithZero.Nat
import SqlImage.Parse
import SqlImage.Proofs.Offset

namespace SqlImage

/-! ### Counting from the newlines -/

namespace Position

theorem lastLine_concat (text : List Char) (character : Char) :
    lastLine (text ++ [character]) =
      if character = '\n' then [] else lastLine text ++ [character] := by
  rw [lastLine, List.reverse_append, List.reverse_singleton, List.singleton_append,
    List.takeWhile_cons]
  by_cases newline : character = '\n'
  · rw [if_neg (by simp [newline]), if_pos newline, List.reverse_nil]
  · rw [if_pos (by simp [newline]), if_neg newline, List.reverse_cons, lastLine]

/-- Counting the newlines of a text and the characters of its last line leads to the place that
reading it leads to. -/
theorem endOf_eq_after (text : List Char) : endOf text = after text := by
  induction text using List.reverseRecOn with
  | nil => rfl
  | append_singleton text character inductionHypothesis =>
    rw [after_concat, ← inductionHypothesis, endOf, lastLine_concat, List.count_append]
    by_cases newline : character = '\n'
    · rw [newline, if_pos rfl]
      rfl
    · rw [List.count_singleton, if_neg newline, if_neg (by simpa using newline), advance,
        if_neg newline, List.length_append]
      rfl

theorem line_endOf_le (text : List Char) : (endOf text).line ≤ text.length + 1 :=
  Nat.succ_le_succ List.count_le_length

theorem column_endOf_le (text : List Char) : (endOf text).column ≤ text.length + 1 := by
  have part := (List.takeWhile_sublist (l := text.reverse) (· ≠ '\n')).length_le
  rw [List.length_reverse] at part
  rw [endOf, lastLine, List.length_reverse]
  exact Nat.succ_le_succ part

end Position

/-! ### Lines and columns of errors -/

/-- An error at a place has its line and column, if these fit. -/
theorem invalidAt_eq {position : Position} (lineFits : position.line < 2 ^ 31)
    (columnFits : position.column < 2 ^ 31) (message : String) :
    ∃ error : Tree.SyntaxError, invalidAt message position = .invalid error ∧
      error.message = message ∧ error.line.toInt = position.line ∧
      error.column.toInt = position.column :=
  ⟨_, rfl, rfl, Int32.toInt_ofNat_of_lt lineFits, Int32.toInt_ofNat_of_lt columnFits⟩

/-! ### Offsets -/

namespace LineIndex

open Position

theorem offset_le_total (index : LineIndex) (position : Position) :
    index.offset position ≤ index.total := by
  unfold offset
  split
  · exact Nat.min_le_right _ _
  · exact Nat.le_refl _

theorem offset_after_take (text : List Char) {count : Nat} (within : count ≤ text.length) :
    (ofText text).offset (after (text.take count)) = count := by
  have found := offset_after (text.take count) (text.drop count)
  rwa [List.take_append_drop, List.length_take_of_le within] at found

/-- The place behind the first characters of a text, counted in whichever way, leads back to how
many they are. Places of more characters have larger offsets, and no place leads out of the
text. -/
theorem offset_exact {text : List Char} (short : text.length < 2 ^ 31 - 1) :
    (∀ count ≤ text.length,
      let position := after (text.take count)
      (ofText text).offset position = count ∧
      endOf (text.take count) = position ∧
      ∀ message, ∃ error, invalidAt message (endOf (text.take count)) = .invalid error ∧
        error.line.toInt = position.line ∧ error.column.toInt = position.column) ∧
    (∀ first second, first < second → second ≤ text.length →
      (ofText text).offset (after (text.take first)) <
        (ofText text).offset (after (text.take second))) ∧
    ∀ position, (ofText text).offset position ≤ text.length := by
  refine ⟨fun count within => ⟨offset_after_take text within, endOf_eq_after _, fun message => ?_⟩,
    fun first second less within => ?_, fun position => ?_⟩
  · have lineBound := line_endOf_le (text.take count)
    have columnBound := column_endOf_le (text.take count)
    rw [List.length_take_of_le within] at lineBound columnBound
    have lineFits : (endOf (text.take count)).line < 2 ^ 31 := by omega
    have columnFits : (endOf (text.take count)).column < 2 ^ 31 := by omega
    obtain ⟨error, made, -, line, column⟩ := invalidAt_eq lineFits columnFits message
    rw [endOf_eq_after] at line column
    exact ⟨error, made, line, column⟩
  · rw [offset_after_take text (by omega), offset_after_take text within]
    exact less
  · rw [← total_ofText text]
    exact offset_le_total _ _

/-- A line that ends in two characters, an empty line, and a character of three bytes. -/
def unevenLines : List Char := "ab\r\n\n漢".toList

theorem offset_exact_unevenLines :
    unevenLines.length < 2 ^ 31 - 1 ∧
      (ofText unevenLines).offset ⟨1, 4⟩ = 3 ∧ (ofText unevenLines).offset ⟨2, 1⟩ = 4 ∧
      (ofText unevenLines).offset ⟨3, 2⟩ = 6 ∧ endOf unevenLines = ⟨3, 2⟩ ∧
      (ofText unevenLines).offset ⟨3, 1⟩ < (ofText unevenLines).offset ⟨3, 2⟩ ∧
      (ofText unevenLines).offset ⟨2, 9⟩ ≤ 6 := by
  have short : unevenLines.length < 2 ^ 31 - 1 := by decide
  obtain ⟨places, increasing, within⟩ := offset_exact short
  exact ⟨short, (places 3 (by decide)).1, (places 4 (by decide)).1, (places 6 (by decide)).1,
    (places 6 (by decide)).2.1, increasing 5 6 (by decide) (by decide), within _⟩

end LineIndex

end SqlImage
