/-
This file says what becomes of a query that is given by its bytes. If those before
the first zero are the bytes of a text, the query is that text; otherwise the
answer is an error that tells how far the bytes are well formed, counted once in
bytes and once in lines and columns of the characters they hold. Either way there
is an image, and giving it back once settles the scope it was made in.
-/

import Mathlib.Data.List.TakeWhile
import SqlImage.Proofs.Encoded
import SqlImage.Proofs.Parsed
import SqlImage.Proofs.Shape
import SqlImage.Proofs.Kept

namespace SqlImage

open SqlImage.Image SqlImage.Tree
open Text.Utf8 hiding Fault

/-! ### Places -/

namespace Position

/-- The last line of a text is what stands behind its last newline. -/
theorem exists_lines_append (text : List Char) :
    ∃ lines, text = lines ++ lastLine text ∧ '\n' ∉ lastLine text ∧
      ∀ character, lines.getLast? = some character → character = '\n' := by
  have parts : text.reverse.takeWhile (· ≠ '\n') ++ text.reverse.dropWhile (· ≠ '\n') =
      text.reverse := List.takeWhile_append_dropWhile
  refine ⟨(text.reverse.dropWhile (· ≠ '\n')).reverse, ?_, ?_, ?_⟩
  · rw [lastLine, ← List.reverse_append, parts, List.reverse_reverse]
  · intro newline
    rw [lastLine, List.mem_reverse] at newline
    have other := List.mem_takeWhile_imp newline
    exact absurd rfl (of_decide_eq_true other)
  · intro character ends
    have stopped := List.head?_dropWhile_not (· ≠ '\n') text.reverse
    rw [List.getLast?_reverse] at ends
    rw [ends] at stopped
    exact Decidable.not_not.mp (of_decide_eq_false stopped)

end Position

theorem toInt_ofNat_succ {count bound : Nat} (few : count ≤ bound) (small : bound < 2 ^ 31 - 1) :
    (Int32.ofNat (count + 1)).toInt = 1 + count := by
  rw [Int32.toInt_ofNat_of_lt (by omega)]
  omega

namespace Text.Utf8

theorem length_le_length_encoded (text : List Char) : text.length ≤ (encoded text).length := by
  induction text with
  | nil => exact Nat.le_refl 0
  | cons next text inductionHypothesis =>
    have positive := List.length_pos_iff.mpr (units_ne_nil next)
    rw [encoded_cons, List.length_append, List.length_cons]
    omega

end Text.Utf8

/-! ### Errors -/

/-- An error says where bytes stop being well formed. Its message tells what is wrong there and
how many bytes come before, and its line and column are those of the character behind these
bytes. -/
structure Blames (error : SyntaxError) (bytes : List Nat) (fault : Text.Utf8.Fault) : Prop where
  describes : fault.Describes bytes
  message : error.message = "query is not valid UTF-8: " ++ fault.message
  line : error.line.toInt = 1 + fault.before.count '\n'
  column : ∃ lines last, fault.before = lines ++ last ∧ '\n' ∉ last ∧
    (∀ character, lines.getLast? = some character → character = '\n') ∧
    error.column.toInt = 1 + last.length

theorem blames_endOf {bytes : List Nat} {fault : Text.Utf8.Fault}
    (short : bytes.length < 2 ^ 31 - 1) (found : decode bytes = .error fault) :
    ∃ error, invalidAt ("query is not valid UTF-8: " ++ fault.message) (.endOf fault.before) =
      .invalid error ∧ Blames error bytes fault := by
  have describes := decode_eq_error found
  have bound : fault.before.length ≤ bytes.length :=
    (length_le_length_encoded _).trans describes.wellFormed.length_le
  obtain ⟨lines, parts, noNewline, ends⟩ := Position.exists_lines_append fault.before
  have lastBound : (Position.lastLine fault.before).length ≤ bytes.length := by
    have whole := congrArg List.length parts
    rw [List.length_append] at whole
    omega
  refine ⟨_, rfl, describes, rfl, ?_, lines, _, parts, noNewline, ends, ?_⟩
  · exact toInt_ofNat_succ (List.count_le_length.trans bound) short
  · exact toInt_ofNat_succ lastBound short

/-! ### One image in one scope -/

/-- An image that is given back in the scope it was made in leaves nothing of that scope
behind. -/
theorem Image.Heap.Settled.release_store {heap : Heap} (settled : heap.Settled)
    (result : ParseResult) :
    ∃ later, (heap.openScope.store result).2.release (some (heap.openScope.store result).1) =
        .ok later ∧
      later.closeScope.1 = ⟨result.cells, result.cells, 0, 0⟩ := by
  have kept := heap.openScope.kept_store result
  have stored : (heap.openScope.store result).2.scopes =
      ⟨heap.nextScope, 0 + result.cells, 0, 0⟩ :: heap.scopes := heap.openScope.store_scopes result
  obtain ⟨later, done, scopes, -⟩ := kept.release_scoped stored
  have own : heap.openScope.innermost? = some heap.nextScope := rfl
  rw [if_pos ⟨own, rfl⟩] at scopes
  refine ⟨later, done, ?_⟩
  rw [Heap.closeScope_report (kept.settled_release (settled.openScope.store result) done) scopes]
  simp only [Heap.settle, Nat.zero_add, Nat.sub_self]

/-! ### Bytes -/

/-- Whatever bytes are given, there is an answer to them. If those before the first zero are the
bytes of a text, it is the one to that text, and otherwise an error that says where they stop being
well formed. The answer has an image, and giving that back once settles its scope. -/
theorem parseBytes_total (bytes : List Nat)
    (short : (bytes.takeWhile (· ≠ 0)).length < 2 ^ 31 - 1) :
    (∀ text, encoded text = bytes.takeWhile (· ≠ 0) →
      parseBytes bytes = parse .default text) ∧
    ((∀ text, encoded text ≠ bytes.takeWhile (· ≠ 0)) →
      ∃ error fault, parseBytes bytes = .invalid error ∧
        Blames error (bytes.takeWhile (· ≠ 0)) fault) ∧
    ∀ heap : Heap, heap.Settled →
      let stored := heap.openScope.store (parseBytes bytes)
      IsImage heap.openScope stored.2 stored.1 (parseBytes bytes) ∧
      stored.2.load stored.1 = some (parseBytes bytes).content ∧
      ∃ later, stored.2.release (some stored.1) = .ok later ∧
        later.closeScope.1.isBalanced = true := by
  refine ⟨fun text whole => ?_, fun illFormed => ?_, fun heap settled => ?_⟩
  · rw [parseBytes, decode_eq_ok_iff.mpr whole]
  · cases read : decode (bytes.takeWhile (· ≠ 0)) with
    | ok text => exact absurd (decode_eq_ok_iff.mp read) (illFormed text)
    | error fault =>
      obtain ⟨error, same, blames⟩ := blames_endOf short read
      refine ⟨error, fault, ?_, blames⟩
      rw [parseBytes, read]
      exact same
  · obtain ⟨later, done, report⟩ := settled.release_store (parseBytes bytes)
    refine ⟨heap.openScope.isImage_store _, heap.openScope.load_store _, later, done, ?_⟩
    rw [report]
    simp [Report.isBalanced]

/-- Two lines of which the second one breaks off inside a character. What stands behind the zero
does not count. -/
theorem parseBytes_total_brokenOff :
    let bytes := [0xC3, 0xA9, 0x0A, 0x78, 0xE2, 0x82, 0x00, 0x41]
    let error : SyntaxError :=
      ⟨"query is not valid UTF-8: incomplete utf-8 byte sequence from index 4", 2, 2⟩
    (bytes.takeWhile (· ≠ 0)).length < 2 ^ 31 - 1 ∧
      (∀ text, encoded text ≠ bytes.takeWhile (· ≠ 0)) ∧
      parseBytes bytes = .invalid error ∧
      (∃ fault, Blames error [0xC3, 0xA9, 0x0A, 0x78, 0xE2, 0x82] fault) ∧
      ∃ later, (Heap.empty.openScope.store (.invalid error)).2.release
          (some (Heap.empty.openScope.store (.invalid error)).1) = .ok later ∧
        later.closeScope.1.isBalanced = true := by
  intro bytes error
  have short : (bytes.takeWhile (· ≠ 0)).length < 2 ^ 31 - 1 := by decide
  have read : decode (bytes.takeWhile (· ≠ 0)) = .error ⟨['é', '\n', 'x'], 4, .incomplete⟩ := by
    rfl
  have illFormed : ∀ text, encoded text ≠ bytes.takeWhile (· ≠ 0) := by
    intro text whole
    rw [decode_eq_ok_iff.mpr whole] at read
    cases read
  have answer : parseBytes bytes = .invalid error := by rfl
  obtain ⟨-, wrong, images⟩ := parseBytes_total bytes short
  obtain ⟨found, fault, same, blames⟩ := wrong illFormed
  obtain ⟨-, -, released⟩ := images .empty Heap.settled_empty
  rw [answer] at same released
  cases same
  exact ⟨short, illFormed, answer, ⟨fault, blames⟩, released⟩

end SqlImage
