/-
This file says what cutting a stretch out of a text gives. A stretch is asked for in
characters and cut at byte offsets. The characters before the stretch take as many
bytes as its first offset says, and the stretch itself takes those up to the second
one, so both are places between two characters, in order, and the text that lies
between them is the stretch. Where less text is left than is asked for, the stretch
is what is left. The span of a statement lies in its text, so nothing of it is
missing.
-/

import SqlImage.Proofs.Encoded
import SqlImage.Proofs.Outcome
import SqlImage.Proofs.Spans

namespace SqlImage

namespace Text

open Utf8 (encoded encoded_append encoded_cons length_units)

/-! ### Sizes -/

/-- The size of a text is the number of its bytes. -/
theorem byteSize_eq_length_encoded (text : List Char) :
    byteSize text = (encoded text).length := by
  induction text with
  | nil => rfl
  | cons character rest inductionHypothesis =>
    rw [encoded_cons, List.length_append, length_units, ← inductionHypothesis]
    rfl

theorem byteSize_cons (character : Char) (rest : List Char) :
    byteSize (character :: rest) = character.utf8Size + byteSize rest := rfl

/-! ### Cutting between two characters -/

/-- An offset lies between two characters of a text, before its first one, or behind its last
one. -/
def IsBoundary (text : List Char) (offset : Nat) : Prop :=
  ∃ before after, before ++ after = text ∧ (encoded before).length = offset

theorem dropBytes_append (before rest : List Char) :
    dropBytes (byteSize before) (before ++ rest) = some rest := by
  induction before with
  | nil => cases rest <;> rfl
  | cons character before inductionHypothesis =>
    have positive := character.utf8Size_pos
    rw [byteSize_cons, List.cons_append, dropBytes, if_neg (by omega),
      if_pos (Nat.le_add_right _ _), Nat.add_sub_cancel_left, inductionHypothesis]

theorem takeBytes_append (before rest : List Char) :
    takeBytes (byteSize before) (before ++ rest) = some before := by
  induction before with
  | nil => cases rest <;> rfl
  | cons character before inductionHypothesis =>
    have positive := character.utf8Size_pos
    rw [byteSize_cons, List.cons_append, takeBytes, if_neg (by omega),
      if_pos (Nat.le_add_right _ _), Nat.add_sub_cancel_left, inductionHypothesis]
    rfl

/-- What lies between the end of one part of a text and the end of the next is the next part. -/
theorem cutBytes_append (before middle after : List Char) :
    cutBytes (before ++ middle ++ after) (byteSize before) (byteSize (before ++ middle)) =
      some middle := by
  have sizes : byteSize (before ++ middle) = byteSize before + byteSize middle := by
    simp only [byteSize_eq_length_encoded, encoded_append, List.length_append]
  rw [cutBytes, sizes, if_pos (Nat.le_add_right _ _), List.append_assoc, dropBytes_append,
    Option.bind_some, Nat.add_sub_cancel_left, takeBytes_append]

/-! ### The offsets of a stretch -/

/-- The characters before a place take as many bytes as the offset listed for it says. Behind the
last place the whole text does. -/
theorem getD_boundaries (text : List Char) (offset count : Nat) :
    ((boundaries text offset)[count]?).getD (offset + byteSize text) =
      offset + byteSize (text.take count) := by
  induction text generalizing offset count with
  | nil => cases count <;> rfl
  | cons character rest inductionHypothesis =>
    cases count with
    | zero => rfl
    | succ count =>
      rw [boundaries, List.getElem?_cons_succ, List.take_succ_cons, byteSize_cons, byteSize_cons,
        ← Nat.add_assoc, ← Nat.add_assoc, inductionHypothesis]

/-- The first offset of a stretch counts the bytes before it, and the second one those before its
end. -/
theorem byteBounds_eq (text : List Char) (start length : Nat) :
    byteBounds text start length =
      (byteSize (text.take start), byteSize (text.take (start + length))) := by
  have listed : ∀ count, ((boundaries text 0)[count]?).getD (byteSize text) =
      byteSize (text.take count) := fun count => by
    have found := getD_boundaries text 0 count
    rwa [Nat.zero_add, Nat.zero_add] at found
  cases length with
  | zero => rw [byteBounds, if_pos rfl, listed, Nat.add_zero]
  | succ length =>
    rw [byteBounds, if_neg (Nat.succ_ne_zero length), List.getElem?_drop, listed, listed]
    congr 3
    omega

/-- A stretch begins and ends between two characters, and what is cut out are its characters. -/
theorem slice_eq (text : List Char) (start length : Nat) :
    slice text start length = some ((text.drop start).take length) := by
  have parts : text.take start ++ (text.drop start).take length = text.take (start + length) :=
    List.take_add.symm
  have whole : text.take start ++ (text.drop start).take length ++ text.drop (start + length) =
      text := by
    rw [parts, List.take_append_drop]
  have cut := cutBytes_append (text.take start) ((text.drop start).take length)
    (text.drop (start + length))
  rw [whole, parts] at cut
  rw [slice, byteBounds_eq]
  exact cut

/-- The bytes of a stretch are those between its two offsets. -/
theorem encoded_take_drop (text : List Char) (start length : Nat) :
    encoded ((text.drop start).take length) =
      ((encoded text).drop (byteSize (text.take start))).take
        (byteSize (text.take (start + length)) - byteSize (text.take start)) := by
  have parts : text.take start ++ (text.drop start).take length = text.take (start + length) :=
    List.take_add.symm
  have bytes : encoded text = encoded (text.take start) ++
      (encoded ((text.drop start).take length) ++ encoded (text.drop (start + length))) := by
    rw [← encoded_append, ← encoded_append, ← List.append_assoc, parts, List.take_append_drop]
  rw [bytes, ← parts]
  simp only [byteSize_eq_length_encoded, encoded_append, List.length_append,
    Nat.add_sub_cancel_left, List.drop_left, List.take_left]

theorem isBoundary_byteSize_take (text : List Char) (count : Nat) :
    IsBoundary text (byteSize (text.take count)) :=
  ⟨text.take count, text.drop count, List.take_append_drop count text,
    (byteSize_eq_length_encoded _).symm⟩

theorem byteSize_take_le (text : List Char) (start length : Nat) :
    byteSize (text.take start) ≤ byteSize (text.take (start + length)) := by
  rw [List.take_add, byteSize_eq_length_encoded, byteSize_eq_length_encoded, encoded_append,
    List.length_append]
  exact Nat.le_add_right _ _

end Text

/-! ### Spans -/

namespace Sql

open Text (IsBoundary byteBounds)
open Text.Utf8 (encoded)

/-- The spans of a text lie in it. -/
theorem le_length_of_mem_split {text : List Char} {spans : List Span}
    (found : split text = .ok spans) {span : Span} (member : span ∈ spans) :
    span.start + span.length ≤ text.length := by
  obtain ⟨tokens, read, -⟩ := map_eq_ok.mp found
  obtain ⟨placed, fills, rfl⟩ := fills_tokenize read
  obtain ⟨others, same, covers⟩ := split_covers fills read
  rw [found] at same
  cases same
  exact (isSplit_of_covers fills covers).within span member

/-- Cutting a span out of a text always succeeds, at two offsets between characters, and gives the
characters from its start on, as many as it has or as are left. The spans of the statements of a
text have all theirs. -/
theorem Span.text_exact (text : List Char) :
    (∀ span : Span,
      let bounds := byteBounds text span.start span.length
      let characters := (text.drop span.start).take span.length
      IsBoundary text bounds.1 ∧ IsBoundary text bounds.2 ∧ bounds.1 ≤ bounds.2 ∧
        encoded characters = ((encoded text).drop bounds.1).take (bounds.2 - bounds.1) ∧
        span.text text = some characters) ∧
    ∀ spans, split text = .ok spans → ∀ span ∈ spans,
      (span.text text).map List.length = some span.length := by
  refine ⟨fun span => ?_, fun spans found span member => ?_⟩
  · dsimp only
    rw [Text.byteBounds_eq]
    exact ⟨Text.isBoundary_byteSize_take _ _, Text.isBoundary_byteSize_take _ _,
      Text.byteSize_take_le _ _ _, Text.encoded_take_drop _ _ _, Text.slice_eq _ _ _⟩
  · have within := le_length_of_mem_split found member
    rw [Span.text, Text.slice_eq, Option.map_some, List.length_take_of_le]
    rw [List.length_drop]
    omega

/-- Two statements whose last characters take two and three bytes. -/
def wideCharacters : List Char := "SELECT é; 漢".toList

theorem Span.text_exact_wideCharacters :
    split wideCharacters = .ok [⟨0, 8, ⟨1, 1⟩⟩, ⟨10, 1, ⟨1, 11⟩⟩] ∧
      byteBounds wideCharacters 10 1 = (11, 14) ∧ IsBoundary wideCharacters 11 ∧
      IsBoundary wideCharacters 14 ∧
      Span.text ⟨10, 1, ⟨1, 11⟩⟩ wideCharacters = some ['漢'] ∧
      (Span.text ⟨10, 1, ⟨1, 11⟩⟩ wideCharacters).map List.length = some 1 ∧
      Span.text ⟨10, 9, ⟨1, 11⟩⟩ wideCharacters = some ['漢'] ∧
      Span.text ⟨12, 0, ⟨1, 11⟩⟩ wideCharacters = some [] := by
  have shown : (split wideCharacters).toOption =
      some [⟨0, 8, ⟨1, 1⟩⟩, ⟨10, 1, ⟨1, 11⟩⟩] := by decide +kernel
  obtain ⟨cuts, lengths⟩ := text_exact wideCharacters
  have bounds : byteBounds wideCharacters 10 1 = (11, 14) := by decide
  obtain ⟨first, last, -, -, cut⟩ := cuts ⟨10, 1, ⟨1, 11⟩⟩
  rw [bounds] at first last
  obtain ⟨-, -, -, -, tooLong⟩ := cuts ⟨10, 9, ⟨1, 11⟩⟩
  obtain ⟨-, -, -, -, outside⟩ := cuts ⟨12, 0, ⟨1, 11⟩⟩
  cases found : split wideCharacters with
  | error place =>
    rw [found] at shown
    cases shown
  | ok spans =>
    rw [found] at shown
    cases shown
    exact ⟨rfl, bounds, first, last, cut,
      lengths _ found ⟨10, 1, ⟨1, 11⟩⟩ (List.mem_cons_of_mem _ List.mem_cons_self), tooLong,
      outside⟩

end Sql

end SqlImage
