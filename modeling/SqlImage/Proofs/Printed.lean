/-
This file says that a value is read from its pretty form. Every element and every
member is read where it was printed: the reader stands before it, perhaps with blanks
in between, and stands behind it afterwards. How deep the value lies, and how far its
lines are indented, does not matter, and the fuel that the reader gets is enough: every
step takes a character, save for the last one.
-/

import SqlImage.Proofs.Spelled

namespace SqlImage.Json

/-! ### What can be read back -/

mutual

/-- Whether all numbers in a value are read back from their texts. -/
def Value.Legible : Value → Prop
  | .number written => written.ReadsBack
  | .list elements => ElementsLegible elements
  | .object members => MembersLegible members
  | _ => True

/-- Whether all numbers in some elements are read back from their texts. -/
def ElementsLegible : List Value → Prop
  | [] => True
  | head :: tail => head.Legible ∧ ElementsLegible tail

/-- Whether all numbers in some members are read back from their texts. -/
def MembersLegible : List (String × Value) → Prop
  | [] => True
  | (_, head) :: tail => head.Legible ∧ MembersLegible tail

end

namespace Cursor

variable {cursor : Cursor} {text rest behind : List Char} {fuel : Nat} {head : Value}

/-! ### Where a reader stands -/

/-- A reader stands at a text, and the text fits into the whole one. -/
structure Stands (cursor : Cursor) (text : List Char) : Prop where
  here : cursor.rest = text
  fits : text.length ≤ cursor.size

/-- A reader stands before a text, perhaps with blanks in between, and the text fits into the
whole one. -/
structure Faces (cursor : Cursor) (text : List Char) : Prop where
  same : cursor.rest.dropWhile isBlank = text.dropWhile isBlank
  fits : text.length ≤ cursor.size

theorem Stands.faces (stands : cursor.Stands text) : cursor.Faces text :=
  ⟨by rw [stands.here], stands.fits⟩

theorem Stands.skip {character : Char} (stands : cursor.Stands (character :: rest)) :
    cursor.skip.Stands rest := by
  refine ⟨by rw [rest_skip, stands.here]; rfl, ?_⟩
  rw [size_skip]
  exact Nat.le_of_succ_le stands.fits

theorem dropWhile_isBlank_dropWhile (text : List Char) :
    (text.dropWhile isBlank).dropWhile isBlank = text.dropWhile isBlank := by
  induction text with
  | nil => rfl
  | cons character text inductionHypothesis =>
    cases blank : isBlank character with
    | true => rw [List.dropWhile_cons_of_pos blank, inductionHypothesis]
    | false => simp [blank]

theorem Faces.skipBlanks (faces : cursor.Faces text) : cursor.skipBlanks.Faces text := by
  refine ⟨?_, ?_⟩
  · rw [Cursor.skipBlanks, rest_skipWhile, dropWhile_isBlank_dropWhile, faces.same]
  · rw [Cursor.skipBlanks, size_skipWhile]
    exact faces.fits

/-- A text that does not begin with a blank is reached by skipping blanks. -/
theorem Faces.stands {character : Char} (faces : cursor.Faces (character :: rest))
    (solid : isBlank character = false) : cursor.skipBlanks.Stands (character :: rest) := by
  refine ⟨?_, faces.skipBlanks.fits⟩
  rw [Cursor.skipBlanks, rest_skipWhile, faces.same,
    List.dropWhile_cons_of_neg (by simp [solid])]

/-- Blanks before a text do not matter. -/
theorem Faces.behind_blanks {blanks : List Char} (faces : cursor.Faces (blanks ++ text))
    (blank : ∀ character ∈ blanks, isBlank character = true) : cursor.Faces text := by
  refine ⟨by rw [faces.same, List.dropWhile_append_of_pos blank], ?_⟩
  have fits := faces.fits
  rw [List.length_append] at fits
  exact Nat.le_of_add_left_le fits

theorem toList_indented (level : Nat) :
    (indented level).toList = '\n' :: List.replicate (2 * level) ' ' := by
  simp only [indented, String.toList_append, String.toList_ofList]
  rfl

theorem isBlank_indented (level : Nat) :
    ∀ character ∈ (indented level).toList, isBlank character = true := by
  intro character inside
  rw [toList_indented] at inside
  rcases List.mem_cons.mp inside with rfl | blank
  · rfl
  · rw [List.eq_of_mem_replicate blank]
    rfl

/-- A line break and the blanks behind it do not matter. -/
theorem Faces.behind_indented {level : Nat}
    (faces : cursor.Faces ((indented level).toList ++ text)) : cursor.Faces text :=
  faces.behind_blanks (isBlank_indented level)

/-- A comma and a line break are passed together. -/
theorem Faces.behind_comma {level : Nat}
    (faces : cursor.Faces (',' :: ((indented level).toList ++ text))) :
    cursor.skipBlanks.skip.Faces text :=
  (faces.stands rfl).skip.faces.behind_indented

/-- A reading ends with a value, and the reader stands before what is left. -/
def Reads {α : Type} (run : Except Fault (α × Cursor)) (value : α) (rest : List Char) : Prop :=
  ∃ next, run = .ok (value, next) ∧ next.Faces rest

theorem Reads.map {α β : Type} {run : Except Fault (α × Cursor)} {value : α}
    (reads : Reads run value rest) (build : α → β) :
    Reads (run.map fun (value, cursor) => (build value, cursor)) (build value) rest := by
  obtain ⟨next, rfl, faces⟩ := reads
  exact ⟨next, rfl, faces⟩

/-! ### Words and strings -/

theorem word_eq {word : List Char} (stands : cursor.Stands (word ++ rest)) (value : Value) :
    Reads ((Cursor.word word cursor).map (value, ·)) value rest := by
  induction word generalizing cursor with
  | nil => exact ⟨cursor, rfl, stands.faces⟩
  | cons character word inductionHypothesis =>
    have next : (cursor.past character (word ++ rest)).Stands (word ++ rest) :=
      ⟨rest_past _ _ _, by
        rw [size_past]
        exact Nat.le_of_succ_le stands.fits⟩
    rw [Cursor.word, stands.here, List.cons_append]
    dsimp only
    rw [if_pos rfl]
    exact inductionHypothesis next

/-- A text is read from behind its opening quote. -/
theorem string_reads (text : String)
    (stands : cursor.Stands ((quotedText text).toList ++ rest)) :
    Reads cursor.skip.string text rest := by
  have opened : cursor.Stands ('"' :: (((quotedText text).toList ++ rest).tail)) := by
    rw [toList_quotedText] at stands ⊢
    exact stands
  have skipped := opened.skip
  have quoted : '"' :: cursor.skip.rest = (quotedText text).toList ++ rest := by
    rw [skipped.here, ← opened.here, stands.here]
  obtain ⟨next, here, size, read⟩ := string_eq text quoted (skipped.here ▸ skipped.fits)
  refine ⟨next, read, Stands.faces ⟨here, ?_⟩⟩
  have fits := stands.fits
  rw [List.length_append] at fits
  rw [size, size_skip]
  exact Nat.le_of_add_left_le fits

/-! ### Values of one word -/

theorem Faces.quoted {text : String} (faces : cursor.Faces ((quotedText text).toList ++ rest)) :
    cursor.skipBlanks.Stands ((quotedText text).toList ++ rest) := by
  rw [toList_quotedText] at faces ⊢
  exact faces.stands rfl

theorem value_null (faces : cursor.Faces ("null".toList ++ rest)) :
    Reads (cursor.value (fuel + 1)) .null rest := by
  have stands : cursor.skipBlanks.Stands ('n' :: ("ull".toList ++ rest)) := faces.stands rfl
  unfold value
  dsimp only
  rw [stands.here]
  exact word_eq stands.skip .null

theorem value_boolean (answer : Bool)
    (faces : cursor.Faces ((if answer then "true" else "false").toList ++ rest)) :
    Reads (cursor.value (fuel + 1)) (.boolean answer) rest := by
  cases answer with
  | true =>
    have stands : cursor.skipBlanks.Stands ('t' :: ("rue".toList ++ rest)) := faces.stands rfl
    unfold value
    dsimp only
    rw [stands.here]
    exact word_eq stands.skip (.boolean true)
  | false =>
    have stands : cursor.skipBlanks.Stands ('f' :: ("alse".toList ++ rest)) := faces.stands rfl
    unfold value
    dsimp only
    rw [stands.here]
    exact word_eq stands.skip (.boolean false)

theorem value_number {number : Number} (readsBack : number.ReadsBack) (ends : EndsNumber rest)
    (faces : cursor.Faces (number.toText.toList ++ rest)) :
    Reads (cursor.value (fuel + 1)) (.number number) rest := by
  obtain ⟨next, read, same, size⟩ := readsBack.value ends fuel faces.same
  refine ⟨next, read, same, ?_⟩
  have fits := faces.fits
  rw [List.length_append] at fits
  rw [size]
  exact Nat.le_of_add_left_le fits

theorem value_text (text : String) (faces : cursor.Faces ((quotedText text).toList ++ rest)) :
    Reads (cursor.value (fuel + 1)) (.text text) rest := by
  have stands := faces.quoted
  have here := stands.here
  rw [toList_quotedText, List.cons_append] at here
  unfold value
  dsimp only
  rw [here]
  exact (string_reads text stands).map Value.text

/-! ### Lists -/

/-- No value begins with a closing bracket. -/
theorem begins_of_value {result : Value × Cursor} (done : cursor.value fuel = .ok result) :
    ∃ first more, cursor.skipBlanks.rest = first :: more ∧ first ≠ ']' := by
  cases fuel with
  | zero => cases done
  | succ fuel =>
    unfold value at done
    dsimp only at done
    cases here : cursor.skipBlanks.rest with
    | nil =>
      rw [here] at done
      cases done
    | cons first more =>
      refine ⟨first, more, rfl, ?_⟩
      rintro rfl
      rw [here] at done
      cases done

/-- What a reading stands on, apart from the blanks before it, does not begin with a closing
bracket. -/
theorem Faces.begins (faces : cursor.Faces text)
    (reads : ∀ cursor : Cursor, cursor.Faces text → Reads (cursor.value fuel) head behind) :
    ∃ first more, cursor.skipBlanks.rest = first :: more ∧ first ≠ ']' := by
  obtain ⟨next, done, -⟩ := reads cursor faces
  exact begins_of_value done

theorem nextElement_first (faces : cursor.Faces text)
    (reads : ∀ cursor : Cursor, cursor.Faces text → Reads (cursor.value fuel) head behind) :
    cursor.nextElement true = .ok (true, cursor.skipBlanks) := by
  obtain ⟨first, more, here, other⟩ := faces.begins reads
  unfold nextElement
  dsimp only
  rw [here]
  simp

theorem nextElement_later {level : Nat}
    (faces : cursor.Faces (',' :: ((indented level).toList ++ text)))
    (reads : ∀ cursor : Cursor, cursor.Faces text → Reads (cursor.value fuel) head behind) :
    cursor.nextElement false = .ok (true, cursor.skipBlanks.skip.skipBlanks) := by
  obtain ⟨first, more, here, other⟩ := faces.behind_comma.begins reads
  unfold nextElement
  dsimp only
  rw [(faces.stands rfl).here]
  simp [here]

theorem nextElement_end (first : Bool) (faces : cursor.Faces (']' :: rest)) :
    cursor.nextElement first = .ok (false, cursor.skipBlanks.skip) := by
  unfold nextElement
  dsimp only
  rw [(faces.stands rfl).here]
  rfl

/-- The end of a list. -/
theorem elements_nil (first : Bool) (faces : cursor.Faces (']' :: rest)) :
    Reads (cursor.elements (fuel + 1) first) [] rest := by
  refine ⟨cursor.skipBlanks.skip, ?_, (faces.stands rfl).skip.faces⟩
  rw [elements, nextElement_end first faces]

/-- An element where the next one begins, and the elements behind it. -/
theorem elements_cons {first : Bool} {tail : List Value} {start : Cursor}
    (found : cursor.nextElement first = .ok (true, start))
    (headReads : Reads (start.value fuel) head behind)
    (tailReads : ∀ cursor : Cursor, cursor.Faces behind →
      Reads (cursor.elements fuel false) tail rest) :
    Reads (cursor.elements (fuel + 1) first) (head :: tail) rest := by
  obtain ⟨middle, headDone, faces⟩ := headReads
  obtain ⟨next, tailDone, after⟩ := tailReads middle faces
  refine ⟨next, ?_, after⟩
  rw [elements, found]
  dsimp only
  rw [headDone]
  dsimp only
  rw [tailDone]

theorem elements_first {tail : List Value} (faces : cursor.Faces text)
    (headReads : ∀ cursor : Cursor, cursor.Faces text → Reads (cursor.value fuel) head behind)
    (tailReads : ∀ cursor : Cursor, cursor.Faces behind →
      Reads (cursor.elements fuel false) tail rest) :
    Reads (cursor.elements (fuel + 1) true) (head :: tail) rest :=
  elements_cons (nextElement_first faces headReads) (headReads _ faces.skipBlanks) tailReads

theorem elements_later {level : Nat} {tail : List Value}
    (faces : cursor.Faces (',' :: ((indented level).toList ++ text)))
    (headReads : ∀ cursor : Cursor, cursor.Faces text → Reads (cursor.value fuel) head behind)
    (tailReads : ∀ cursor : Cursor, cursor.Faces behind →
      Reads (cursor.elements fuel false) tail rest) :
    Reads (cursor.elements (fuel + 1) false) (head :: tail) rest :=
  elements_cons (nextElement_later faces headReads)
    (headReads _ faces.behind_comma.skipBlanks) tailReads

theorem value_list {elements : List Value} (faces : cursor.Faces ('[' :: text))
    (reads : ∀ cursor : Cursor, cursor.Faces text →
      Reads (cursor.elements fuel true) elements rest) :
    Reads (cursor.value (fuel + 1)) (.list elements) rest := by
  have stands := faces.stands rfl
  unfold value
  dsimp only
  rw [stands.here]
  exact (reads _ stands.skip.faces).map Value.list

/-! ### Objects -/

/-- The text of a member, the text of its value given. -/
def memberText (name : String) (text : List Char) : List Char :=
  (quotedText name).toList ++ ':' :: ' ' :: text

theorem atName_eq {name : String} (faces : cursor.Faces (memberText name text)) :
    nextName.atName cursor.skipBlanks = .ok (true, cursor.skipBlanks.skip) := by
  have here := faces.quoted.here
  rw [toList_quotedText, List.cons_append] at here
  rw [nextName.atName, here]
  rfl

theorem nextName_first {name : String} (faces : cursor.Faces (memberText name text)) :
    cursor.nextName true = .ok (true, cursor.skipBlanks.skip) := by
  have here := faces.quoted.here
  rw [toList_quotedText, List.cons_append] at here
  unfold nextName
  dsimp only
  rw [here]
  exact atName_eq faces

theorem nextName_later {level : Nat} {name : String}
    (faces : cursor.Faces (',' :: ((indented level).toList ++ memberText name text))) :
    cursor.nextName false = .ok (true, cursor.skipBlanks.skip.skipBlanks.skip) := by
  unfold nextName
  dsimp only
  rw [(faces.stands rfl).here]
  exact atName_eq faces.behind_comma

theorem nextName_end (first : Bool) (faces : cursor.Faces ('}' :: rest)) :
    cursor.nextName first = .ok (false, cursor.skipBlanks) := by
  unfold nextName
  dsimp only
  rw [(faces.stands rfl).here]
  rfl

theorem colon_eq (faces : cursor.Faces (':' :: ' ' :: text)) :
    ∃ next : Cursor, cursor.colon = .ok next ∧ next.Faces text := by
  have stands := faces.stands rfl
  refine ⟨cursor.skipBlanks.skip, ?_, ?_⟩
  · unfold colon
    dsimp only
    rw [stands.here]
    rfl
  · have blank : cursor.skipBlanks.skip.Faces (' ' :: text) := stands.skip.faces
    exact ⟨blank.same.trans (List.dropWhile_cons_of_pos rfl), Nat.le_of_succ_le blank.fits⟩

/-- The end of an object. -/
theorem members_nil (first : Bool) (faces : cursor.Faces ('}' :: rest)) :
    Reads (cursor.members (fuel + 1) first) [] rest := by
  refine ⟨cursor.skipBlanks.skip, ?_, (faces.stands rfl).skip.faces⟩
  rw [members, nextName_end first faces]

/-- A member where the next one begins, and the members behind it. -/
theorem members_cons {first : Bool} {name : String} {tail : List (String × Value)}
    {start : Cursor} (faces : start.Faces (memberText name text))
    (found : cursor.nextName first = .ok (true, start.skipBlanks.skip))
    (headReads : ∀ cursor : Cursor, cursor.Faces text → Reads (cursor.value fuel) head behind)
    (tailReads : ∀ cursor : Cursor, cursor.Faces behind →
      Reads (cursor.members fuel false) tail rest) :
    Reads (cursor.members (fuel + 1) first) ((name, head) :: tail) rest := by
  obtain ⟨afterName, named, facesColon⟩ := string_reads name faces.quoted
  obtain ⟨afterColon, colon, facesHead⟩ := colon_eq facesColon
  obtain ⟨afterHead, headDone, facesTail⟩ := headReads afterColon facesHead
  obtain ⟨next, tailDone, after⟩ := tailReads afterHead facesTail
  refine ⟨next, ?_, after⟩
  rw [members, found]
  dsimp only
  rw [named]
  dsimp only
  rw [colon]
  dsimp only
  rw [headDone]
  dsimp only
  rw [tailDone]

theorem members_first {name : String} {tail : List (String × Value)}
    (faces : cursor.Faces (memberText name text))
    (headReads : ∀ cursor : Cursor, cursor.Faces text → Reads (cursor.value fuel) head behind)
    (tailReads : ∀ cursor : Cursor, cursor.Faces behind →
      Reads (cursor.members fuel false) tail rest) :
    Reads (cursor.members (fuel + 1) true) ((name, head) :: tail) rest :=
  members_cons faces (nextName_first faces) headReads tailReads

theorem members_later {level : Nat} {name : String} {tail : List (String × Value)}
    (faces : cursor.Faces (',' :: ((indented level).toList ++ memberText name text)))
    (headReads : ∀ cursor : Cursor, cursor.Faces text → Reads (cursor.value fuel) head behind)
    (tailReads : ∀ cursor : Cursor, cursor.Faces behind →
      Reads (cursor.members fuel false) tail rest) :
    Reads (cursor.members (fuel + 1) false) ((name, head) :: tail) rest :=
  members_cons faces.behind_comma (nextName_later faces) headReads tailReads

theorem value_object {members : List (String × Value)} (faces : cursor.Faces ('{' :: text))
    (reads : ∀ cursor : Cursor, cursor.Faces text →
      Reads (cursor.members fuel true) members rest) :
    Reads (cursor.value (fuel + 1)) (.object members) rest := by
  have stands := faces.stands rfl
  unfold value
  dsimp only
  rw [stands.here]
  exact (reads _ stands.skip.faces).map Value.object

/-! ### The pretty form -/

/-- The text of a value, and what is behind it. -/
def valueText (level : Nat) (value : Value) (rest : List Char) : List Char :=
  (value.toPretty level).toList ++ rest

/-- The text of some elements behind the first one, of the end of their list, and what is
behind it. -/
def elementsText (level outer : Nat) (elements : List Value) (rest : List Char) : List Char :=
  (elementsToPretty level elements).toList ++ ((indented outer).toList ++ ']' :: rest)

/-- The text of some members behind the first one, of the end of their object, and what is
behind it. -/
def membersText (level outer : Nat) (members : List (String × Value)) (rest : List Char) :
    List Char :=
  (membersToPretty level members).toList ++ ((indented outer).toList ++ '}' :: rest)

section Texts

variable (level outer : Nat) (name : String) (elements : List Value)
  (members : List (String × Value))

theorem valueText_list : valueText level (.list (head :: elements)) rest =
    '[' :: ((indented (level + 1)).toList ++
      valueText (level + 1) head (elementsText (level + 1) level elements rest)) := by
  simp [valueText, elementsText, Value.toPretty, String.toList_append]

theorem valueText_object : valueText level (.object ((name, head) :: members)) rest =
    '{' :: ((indented (level + 1)).toList ++ memberText name
      (valueText (level + 1) head (membersText (level + 1) level members rest))) := by
  simp [valueText, membersText, memberText, Value.toPretty, String.toList_append]

theorem elementsText_nil :
    elementsText level outer [] rest = (indented outer).toList ++ ']' :: rest := by
  rw [elementsText, elementsToPretty]
  rfl

theorem membersText_nil :
    membersText level outer [] rest = (indented outer).toList ++ '}' :: rest := by
  rw [membersText, membersToPretty]
  rfl

theorem elementsText_cons : elementsText level outer (head :: elements) rest =
    ',' :: ((indented level).toList ++
      valueText level head (elementsText level outer elements rest)) := by
  simp [valueText, elementsText, elementsToPretty, String.toList_append]

theorem membersText_cons : membersText level outer ((name, head) :: members) rest =
    ',' :: ((indented level).toList ++ memberText name
      (valueText level head (membersText level outer members rest))) := by
  simp [valueText, membersText, memberText, membersToPretty, String.toList_append]

theorem endsNumber_indented : EndsNumber ((indented outer).toList ++ rest) := by
  rw [toList_indented]
  rintro _ ⟨⟩
  decide

theorem endsNumber_comma : EndsNumber (',' :: rest) := by
  rintro _ ⟨⟩
  decide

theorem endsNumber_elementsText : EndsNumber (elementsText level outer elements rest) := by
  cases elements with
  | nil =>
    rw [elementsText_nil]
    exact endsNumber_indented outer
  | cons head tail =>
    rw [elementsText_cons]
    exact endsNumber_comma

theorem endsNumber_membersText : EndsNumber (membersText level outer members rest) := by
  cases members with
  | nil =>
    rw [membersText_nil]
    exact endsNumber_indented outer
  | cons member tail =>
    rw [membersText_cons]
    exact endsNumber_comma

end Texts

/-- A value is read from its text at a level, whatever ends it. -/
def ReadsText (level : Nat) (value : Value) : Prop :=
  ∀ (rest : List Char) (fuel : Nat) (cursor : Cursor), EndsNumber rest →
    (valueText level value rest).length < fuel → cursor.Faces (valueText level value rest) →
      Reads (cursor.value fuel) value rest

/-- Elements behind the first one are read from their text. -/
def ReadsElements (level outer : Nat) (elements : List Value) : Prop :=
  ∀ (rest : List Char) (fuel : Nat) (cursor : Cursor),
    (elementsText level outer elements rest).length < fuel →
    cursor.Faces (elementsText level outer elements rest) →
      Reads (cursor.elements fuel false) elements rest

/-- Members behind the first one are read from their text. -/
def ReadsMembers (level outer : Nat) (members : List (String × Value)) : Prop :=
  ∀ (rest : List Char) (fuel : Nat) (cursor : Cursor),
    (membersText level outer members rest).length < fuel →
    cursor.Faces (membersText level outer members rest) →
      Reads (cursor.members fuel false) members rest

section Constructors

variable {level outer : Nat} {name : String} {elements : List Value}
  {members : List (String × Value)}

/-- A value of one word needs fuel for itself only. -/
theorem readsText_of_word {value : Value}
    (reads : ∀ (rest : List Char) (fuel : Nat) (cursor : Cursor), EndsNumber rest →
      cursor.Faces (valueText level value rest) → Reads (cursor.value (fuel + 1)) value rest) :
    ReadsText level value := by
  intro rest fuel cursor ends enough faces
  cases fuel with
  | zero => cases enough
  | succ fuel => exact reads rest fuel cursor ends faces

theorem length_indented_pos (level : Nat) : 0 < (indented level).toList.length := by
  rw [toList_indented]
  exact Nat.succ_pos _

theorem length_le_valueText (level : Nat) (value : Value) (rest : List Char) :
    rest.length ≤ (valueText level value rest).length := by
  rw [valueText, List.length_append]
  exact Nat.le_add_left _ _

theorem length_le_memberText (name : String) (text : List Char) :
    text.length ≤ (memberText name text).length := by
  rw [memberText, List.length_append, List.length_cons, List.length_cons]
  omega

theorem readsElements_nil : ReadsElements level outer [] := by
  intro rest fuel cursor enough faces
  cases fuel with
  | zero => cases enough
  | succ fuel =>
    rw [elementsText_nil] at faces
    exact elements_nil false faces.behind_indented

theorem readsMembers_nil : ReadsMembers level outer [] := by
  intro rest fuel cursor enough faces
  cases fuel with
  | zero => cases enough
  | succ fuel =>
    rw [membersText_nil] at faces
    exact members_nil false faces.behind_indented

theorem readsElements_cons (headReads : ReadsText level head)
    (tailReads : ReadsElements level outer elements) :
    ReadsElements level outer (head :: elements) := by
  intro rest fuel cursor enough faces
  cases fuel with
  | zero => cases enough
  | succ fuel =>
    rw [elementsText_cons] at faces enough
    have shorter := length_le_valueText level head (elementsText level outer elements rest)
    rw [List.length_cons, List.length_append] at enough
    refine elements_later faces (fun cursor => headReads _ fuel cursor ?_ (by omega))
      (fun cursor => tailReads rest fuel cursor (by omega))
    exact endsNumber_elementsText level outer elements

theorem readsMembers_cons (headReads : ReadsText level head)
    (tailReads : ReadsMembers level outer members) :
    ReadsMembers level outer ((name, head) :: members) := by
  intro rest fuel cursor enough faces
  cases fuel with
  | zero => cases enough
  | succ fuel =>
    rw [membersText_cons] at faces enough
    have shorter := length_le_valueText level head (membersText level outer members rest)
    have inside := length_le_memberText name
      (valueText level head (membersText level outer members rest))
    rw [List.length_cons, List.length_append] at enough
    refine members_later faces (fun cursor => headReads _ fuel cursor ?_ (by omega))
      (fun cursor => tailReads rest fuel cursor (by omega))
    exact endsNumber_membersText level outer members

theorem readsText_emptyList : ReadsText level (.list []) := by
  intro rest fuel cursor _ enough faces
  have empty : valueText level (.list []) rest = '[' :: ']' :: rest := by
    rw [valueText, Value.toPretty]
    rfl
  rw [empty] at faces enough
  rw [List.length_cons, List.length_cons] at enough
  obtain ⟨fuel, rfl⟩ := Nat.exists_eq_add_of_le' (by omega : 2 ≤ fuel)
  exact value_list faces fun cursor inside => elements_nil true inside

theorem readsText_list (headReads : ReadsText (level + 1) head)
    (tailReads : ReadsElements (level + 1) level elements) :
    ReadsText level (.list (head :: elements)) := by
  intro rest fuel cursor _ enough faces
  rw [valueText_list] at faces enough
  have shorter := length_le_valueText (level + 1) head
    (elementsText (level + 1) level elements rest)
  have broken := length_indented_pos (level + 1)
  rw [List.length_cons, List.length_append] at enough
  obtain ⟨fuel, rfl⟩ := Nat.exists_eq_add_of_le' (by omega : 2 ≤ fuel)
  refine value_list faces fun cursor inside => ?_
  refine elements_first inside.behind_indented
    (fun cursor => headReads _ fuel cursor ?_ (by omega))
    (fun cursor => tailReads rest fuel cursor (by omega))
  exact endsNumber_elementsText (level + 1) level elements

theorem readsText_emptyObject : ReadsText level (.object []) := by
  intro rest fuel cursor _ enough faces
  have empty : valueText level (.object []) rest = '{' :: '}' :: rest := by
    rw [valueText, Value.toPretty]
    rfl
  rw [empty] at faces enough
  rw [List.length_cons, List.length_cons] at enough
  obtain ⟨fuel, rfl⟩ := Nat.exists_eq_add_of_le' (by omega : 2 ≤ fuel)
  exact value_object faces fun cursor inside => members_nil true inside

theorem readsText_object (headReads : ReadsText (level + 1) head)
    (tailReads : ReadsMembers (level + 1) level members) :
    ReadsText level (.object ((name, head) :: members)) := by
  intro rest fuel cursor _ enough faces
  rw [valueText_object] at faces enough
  have shorter := length_le_valueText (level + 1) head
    (membersText (level + 1) level members rest)
  have named := length_le_memberText name
    (valueText (level + 1) head (membersText (level + 1) level members rest))
  have broken := length_indented_pos (level + 1)
  rw [List.length_cons, List.length_append] at enough
  obtain ⟨fuel, rfl⟩ := Nat.exists_eq_add_of_le' (by omega : 2 ≤ fuel)
  refine value_object faces fun cursor inside => ?_
  refine members_first inside.behind_indented
    (fun cursor => headReads _ fuel cursor ?_ (by omega))
    (fun cursor => tailReads rest fuel cursor (by omega))
  exact endsNumber_membersText (level + 1) level members

end Constructors

mutual

/-- Whatever is legible is read from its text, at every level. -/
theorem readsText (level : Nat) : (value : Value) → value.Legible → ReadsText level value
  | .null, _ => readsText_of_word fun _ _ _ _ => value_null
  | .boolean answer, _ => readsText_of_word fun _ _ _ _ => value_boolean answer
  | .number _, readsBack => readsText_of_word fun _ _ _ ends => value_number readsBack ends
  | .text text, _ => readsText_of_word fun _ _ _ _ => value_text text
  | .list [], _ => readsText_emptyList
  | .list (head :: tail), ⟨headLegible, tailLegible⟩ =>
    readsText_list (readsText (level + 1) head headLegible)
      (readsElements (level + 1) level tail tailLegible)
  | .object [], _ => readsText_emptyObject
  | .object ((_, head) :: tail), ⟨headLegible, tailLegible⟩ =>
    readsText_object (readsText (level + 1) head headLegible)
      (readsMembers (level + 1) level tail tailLegible)

theorem readsElements (level outer : Nat) :
    (elements : List Value) → ElementsLegible elements → ReadsElements level outer elements
  | [], _ => readsElements_nil
  | head :: tail, ⟨headLegible, tailLegible⟩ =>
    readsElements_cons (readsText level head headLegible)
      (readsElements level outer tail tailLegible)

theorem readsMembers (level outer : Nat) : (members : List (String × Value)) →
    MembersLegible members → ReadsMembers level outer members
  | [], _ => readsMembers_nil
  | (_, head) :: tail, ⟨headLegible, tailLegible⟩ =>
    readsMembers_cons (readsText level head headLegible)
      (readsMembers level outer tail tailLegible)

end

end Cursor

/-- The pretty form of a value is read as the value. -/
theorem Value.ofText_toPretty {value : Value} (legible : value.Legible) :
    ofText (value.toPretty 0) = .ok value := by
  have whole : Cursor.valueText 0 value [] = (value.toPretty 0).toList := List.append_nil _
  have stands : (Cursor.ofText (value.toPretty 0)).Stands (Cursor.valueText 0 value []) :=
    ⟨whole.symm, by rw [whole]; exact Nat.le_refl _⟩
  have enough := Nat.lt_succ_of_le stands.fits
  obtain ⟨next, read, faces⟩ := Cursor.readsText 0 value legible []
    (2 * (Cursor.ofText (value.toPretty 0)).size + 2) _ Cursor.endsNumber_nil (by omega)
    stands.faces
  exact ofText_of_value read faces.same

end SqlImage.Json
