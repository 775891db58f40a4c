/-
This file holds figures. A figure is all that the cells of an image hold, without the
memory that they stand in: each cell carries a mark in the place of its address. It
shows more than the content of the image, since it also holds what is no longer seen:
the elements of an array that do not count any more, and the clauses of a select that
is no longer tagged as one. What is seen of a figure, and which of its cells are
visited by whoever reads the image or gives it back, does not depend on the marks.
-/

import SqlImage.Image.Load
import Mathlib.Data.List.Forall2
import Mathlib.Data.List.Nodup

namespace SqlImage.Image

/-- What a slot holds with all that it leads to. Each cell carries a mark. -/
inductive Figure (Mark : Type) where
  /-- A slot that leads nowhere. -/
  | leaf (slot : Slot)
  | text (mark : Mark) (value : String)
  | record (mark : Mark) (kind : Kind) (fields : List (Figure Mark))
  /-- An array with all its elements, and how many of them count. -/
  | array (mark : Mark) (count : Nat) (elements : List (Figure Mark))

namespace Figure

variable {Mark Other : Type}

/-! ### Marks -/

mutual

/-- The same figure with other marks. -/
def map (change : Mark → Other) : Figure Mark → Figure Other
  | .leaf slot => .leaf slot
  | .text mark value => .text (change mark) value
  | .record mark kind fields => .record (change mark) kind (mapAll change fields)
  | .array mark count elements => .array (change mark) count (mapAll change elements)

/-- The same figures with other marks. -/
def mapAll (change : Mark → Other) : List (Figure Mark) → List (Figure Other)
  | [] => []
  | head :: tail => head.map change :: mapAll change tail

end

mutual

/-- The marks of all cells, those of a record or an array behind those of what it leads to. -/
def marks : Figure Mark → List Mark
  | .leaf _ => []
  | .text mark _ => [mark]
  | .record mark _ fields => marksAll fields ++ [mark]
  | .array mark _ elements => marksAll elements ++ [mark]

/-- The marks of all cells of several figures. -/
def marksAll : List (Figure Mark) → List Mark
  | [] => []
  | head :: tail => head.marks ++ marksAll tail

end

theorem mapAll_eq_map (change : Mark → Other) (figures : List (Figure Mark)) :
    mapAll change figures = figures.map (·.map change) := by
  induction figures with
  | nil => rfl
  | cons head tail inductionHypothesis => rw [mapAll, inductionHypothesis, List.map_cons]

theorem marksAll_eq_flatMap (figures : List (Figure Mark)) :
    marksAll figures = figures.flatMap marks := by
  induction figures with
  | nil => rfl
  | cons head tail inductionHypothesis => rw [marksAll, inductionHypothesis, List.flatMap_cons]

theorem marks_subset_marksAll {figures : List (Figure Mark)} {position : Nat}
    {figure : Figure Mark} (there : figures[position]? = some figure) :
    figure.marks ⊆ marksAll figures := by
  rw [marksAll_eq_flatMap]
  exact fun mark member => List.mem_flatMap.mpr ⟨figure, List.mem_of_getElem? there, member⟩

theorem nodup_of_getElem? {figures : List (Figure Mark)} {position : Nat} {figure : Figure Mark}
    (there : figures[position]? = some figure) (distinct : (marksAll figures).Nodup) :
    figure.marks.Nodup := by
  rw [marksAll_eq_flatMap] at distinct
  exact (List.nodup_flatMap.mp distinct).1 figure (List.mem_of_getElem? there)

mutual

theorem marks_map (change : Mark → Other) :
    (figure : Figure Mark) → (figure.map change).marks = figure.marks.map change
  | .leaf _ => rfl
  | .text _ _ => rfl
  | .record _ _ fields => by
    rw [map, marks, marks, marksAll_mapAll change fields, List.map_append, List.map_singleton]
  | .array _ _ elements => by
    rw [map, marks, marks, marksAll_mapAll change elements, List.map_append, List.map_singleton]

theorem marksAll_mapAll (change : Mark → Other) : (figures : List (Figure Mark)) →
    marksAll (mapAll change figures) = (marksAll figures).map change
  | [] => rfl
  | head :: tail => by
    rw [mapAll, marksAll, marksAll, marks_map change head, marksAll_mapAll change tail,
      List.map_append]

end

mutual

/-- A figure depends on its own marks only. -/
theorem map_congr {first second : Mark → Other} : (figure : Figure Mark) →
    (∀ mark ∈ figure.marks, first mark = second mark) → figure.map first = figure.map second
  | .leaf _, _ => rfl
  | .text mark _, same => by rw [map, map, same mark (List.mem_singleton.mpr rfl)]
  | .record mark _ fields, same => by
    rw [marks, List.forall_mem_append] at same
    rw [map, map, mapAll_congr fields same.1, same.2 mark (List.mem_singleton.mpr rfl)]
  | .array mark _ elements, same => by
    rw [marks, List.forall_mem_append] at same
    rw [map, map, mapAll_congr elements same.1, same.2 mark (List.mem_singleton.mpr rfl)]

theorem mapAll_congr {first second : Mark → Other} : (figures : List (Figure Mark)) →
    (∀ mark ∈ marksAll figures, first mark = second mark) →
    mapAll first figures = mapAll second figures
  | [], _ => rfl
  | head :: tail, same => by
    rw [marksAll, List.forall_mem_append] at same
    rw [mapAll, mapAll, map_congr head same.1, mapAll_congr tail same.2]

end

/-! ### What is seen -/

/-- What a slot that leads nowhere says. -/
def leafContent : Slot → Content
  | .tag ordinal => .tag ordinal
  | .flag value => .flag value
  | .place value => .place value
  | .int value => .int value
  | .size value => .size value
  | .double value => .double value
  | .pointer _ => .absent
  | .sequence .absent _ => .noList
  | .sequence _ _ => .list []

/-- The kind that a record with the given fields is seen as through a pointer meant for `kind`. -/
def seenAs (kind : Kind) (fields : List (Figure Mark)) : Kind :=
  match kind, fields with
  | .statement, .leaf slot :: _ => kind.seen [slot]
  | kind, _ => kind

mutual

/-- What is seen of a figure in a field of a type. -/
def content : FieldType → Figure Mark → Content
  | _, .leaf slot => leafContent slot
  | _, .text _ value => .text value
  | .pointer (.node kind), .record _ _ fields =>
    .record (seenAs kind fields) (fieldsContents (seenAs kind fields).fields fields)
  | .sequence target, .array _ count elements => .list (elementsContents target count elements)
  | _, _ => .absent
termination_by structural _ figure => figure

/-- What is seen of the figures in some fields. Further figures are not seen. -/
def fieldsContents : List Field → List (Figure Mark) → List Content
  | field :: fields, head :: tail => head.content field.type :: fieldsContents fields tail
  | _, _ => []
termination_by structural _ figures => figures

/-- What is seen of the first elements of an array. -/
def elementsContents (target : Target) : Nat → List (Figure Mark) → List Content
  | count + 1, head :: tail =>
    head.content (.pointer target) :: elementsContents target count tail
  | _, _ => []
termination_by structural _ figures => figures

end

mutual

/-- The marks of the cells that are visited through a field of a type. An array of which no element
counts is not visited. -/
def visited : FieldType → Figure Mark → List Mark
  | _, .leaf _ => []
  | _, .text mark _ => [mark]
  | .pointer (.node kind), .record mark _ fields =>
    fieldsVisited (seenAs kind fields).fields fields ++ [mark]
  | .sequence target, .array mark count elements =>
    elementsVisited target count elements ++ (if count = 0 then [] else [mark])
  | _, _ => []
termination_by structural _ figure => figure

/-- The marks of the cells that are visited through some fields. -/
def fieldsVisited : List Field → List (Figure Mark) → List Mark
  | field :: fields, head :: tail => head.visited field.type ++ fieldsVisited fields tail
  | _, _ => []
termination_by structural _ figures => figures

/-- The marks of the cells that are visited through the first elements of an array. -/
def elementsVisited (target : Target) : Nat → List (Figure Mark) → List Mark
  | count + 1, head :: tail => head.visited (.pointer target) ++ elementsVisited target count tail
  | _, _ => []
termination_by structural _ figures => figures

end

theorem seenAs_mapAll (change : Mark → Other) (kind : Kind) (fields : List (Figure Mark)) :
    seenAs kind (mapAll change fields) = seenAs kind fields := by
  cases kind <;> try rfl
  cases fields with
  | nil => rfl
  | cons head tail => cases head <;> rfl

mutual

/-- What is seen does not depend on the marks. -/
theorem content_map (change : Mark → Other) : (figure : Figure Mark) → (type : FieldType) →
    (figure.map change).content type = figure.content type
  | .leaf _, _ => by simp only [map, content]
  | .text _ _, _ => by simp only [map, content]
  | .record _ _ fields, type => by
    cases type with
    | pointer target =>
      cases target with
      | text => rfl
      | node kind =>
        simp only [map, content, seenAs_mapAll, fieldsContents_mapAll change fields]
    | _ => rfl
  | .array _ _ elements, type => by
    cases type with
    | sequence target => simp only [map, content, elementsContents_mapAll change elements]
    | _ => rfl

theorem fieldsContents_mapAll (change : Mark → Other) : (figures : List (Figure Mark)) →
    (fields : List Field) →
    fieldsContents fields (mapAll change figures) = fieldsContents fields figures
  | [], fields => by cases fields <;> rfl
  | head :: tail, fields => by
    cases fields with
    | nil => rfl
    | cons field fields =>
      rw [mapAll, fieldsContents, fieldsContents, content_map change head,
        fieldsContents_mapAll change tail]

theorem elementsContents_mapAll (change : Mark → Other) {target : Target} :
    (figures : List (Figure Mark)) → (count : Nat) →
    elementsContents target count (mapAll change figures) = elementsContents target count figures
  | [], count => by cases count <;> rfl
  | head :: tail, count => by
    cases count with
    | zero => rfl
    | succ count =>
      rw [mapAll, elementsContents, elementsContents, content_map change head,
        elementsContents_mapAll change tail]

end

mutual

/-- Which cells are visited does not depend on the marks. -/
theorem visited_map (change : Mark → Other) : (figure : Figure Mark) → (type : FieldType) →
    (figure.map change).visited type = (figure.visited type).map change
  | .leaf _, _ => by simp only [map, visited, List.map_nil]
  | .text _ _, _ => by simp only [map, visited, List.map_cons, List.map_nil]
  | .record _ _ fields, type => by
    cases type with
    | pointer target =>
      cases target with
      | text => rfl
      | node kind =>
        simp only [map, visited, seenAs_mapAll, fieldsVisited_mapAll change fields,
          List.map_append, List.map_cons, List.map_nil]
    | _ => rfl
  | .array _ count elements, type => by
    cases type with
    | sequence target =>
      simp only [map, visited, elementsVisited_mapAll change elements, List.map_append,
        apply_ite (List.map change), List.map_cons, List.map_nil]
    | _ => rfl

theorem fieldsVisited_mapAll (change : Mark → Other) : (figures : List (Figure Mark)) →
    (fields : List Field) →
    fieldsVisited fields (mapAll change figures) = (fieldsVisited fields figures).map change
  | [], fields => by cases fields <;> rfl
  | head :: tail, fields => by
    cases fields with
    | nil => rfl
    | cons field fields =>
      rw [mapAll, fieldsVisited, fieldsVisited, visited_map change head,
        fieldsVisited_mapAll change tail, List.map_append]

theorem elementsVisited_mapAll (change : Mark → Other) {target : Target} :
    (figures : List (Figure Mark)) → (count : Nat) →
    elementsVisited target count (mapAll change figures) =
      (elementsVisited target count figures).map change
  | [], count => by cases count <;> rfl
  | head :: tail, count => by
    cases count with
    | zero => rfl
    | succ count =>
      rw [mapAll, elementsVisited, elementsVisited, visited_map change head,
        elementsVisited_mapAll change tail, List.map_append]

end

mutual

/-- Every visited cell is a cell of the figure, and none is visited twice. -/
theorem visited_sublist : (figure : Figure Mark) → (type : FieldType) →
    (figure.visited type).Sublist figure.marks
  | .leaf _, _ => by simp only [visited, marks, List.Sublist.refl]
  | .text _ _, _ => by simp only [visited, marks, List.Sublist.refl]
  | .record _ _ fields, type => by
    cases type with
    | pointer target =>
      cases target with
      | text => exact List.nil_sublist _
      | node kind => exact (fieldsVisited_sublist fields _).append (.refl _)
    | _ => exact List.nil_sublist _
  | .array _ count elements, type => by
    cases type with
    | sequence target =>
      refine (elementsVisited_sublist elements count).append ?_
      split
      · exact List.nil_sublist _
      · exact .refl _
    | _ => exact List.nil_sublist _

theorem fieldsVisited_sublist : (figures : List (Figure Mark)) → (fields : List Field) →
    (fieldsVisited fields figures).Sublist (marksAll figures)
  | [], fields => by cases fields <;> exact List.nil_sublist _
  | head :: tail, fields => by
    cases fields with
    | nil => exact List.nil_sublist _
    | cons field fields =>
      exact (visited_sublist head field.type).append (fieldsVisited_sublist tail fields)

theorem elementsVisited_sublist {target : Target} : (figures : List (Figure Mark)) →
    (count : Nat) → (elementsVisited target count figures).Sublist (marksAll figures)
  | [], count => by cases count <;> exact List.nil_sublist _
  | head :: tail, count => by
    cases count with
    | zero => exact List.nil_sublist _
    | succ count =>
      exact (visited_sublist head _).append (elementsVisited_sublist tail count)

end

/-! ### Marking what is visited -/

mutual

/-- The same figure with the marks changed of all cells that are visited. -/
def mapVisited (change : Mark → Mark) : FieldType → Figure Mark → Figure Mark
  | _, .leaf slot => .leaf slot
  | _, .text mark value => .text (change mark) value
  | .pointer (.node kind), .record mark actual fields =>
    .record (change mark) actual (mapFields change (seenAs kind fields).fields fields)
  | .sequence target, .array mark count elements =>
    .array (if count = 0 then mark else change mark) count
      (mapElements change target count elements)
  | _, figure => figure
termination_by structural _ figure => figure

/-- The same figures with the marks changed of all cells that are visited through some fields. -/
def mapFields (change : Mark → Mark) : List Field → List (Figure Mark) → List (Figure Mark)
  | field :: fields, head :: tail =>
    head.mapVisited change field.type :: mapFields change fields tail
  | _, figures => figures
termination_by structural _ figures => figures

/-- The same figures with the marks changed of all cells that are visited through the first elements
of an array. -/
def mapElements (change : Mark → Mark) (target : Target) :
    Nat → List (Figure Mark) → List (Figure Mark)
  | count + 1, head :: tail =>
    head.mapVisited change (.pointer target) :: mapElements change target count tail
  | _, figures => figures
termination_by structural _ figures => figures

end

mutual

/-- What does not tell the old marks from the new ones does not notice the change. -/
theorem map_mapVisited {change : Mark → Mark} {blind : Mark → Other}
    (same : ∀ mark, blind (change mark) = blind mark) : (figure : Figure Mark) →
    (type : FieldType) → (figure.mapVisited change type).map blind = figure.map blind
  | .leaf _, _ => by simp only [mapVisited]
  | .text _ _, _ => by simp only [mapVisited, map, same]
  | .record _ _ fields, type => by
    cases type with
    | pointer target =>
      cases target with
      | text => rfl
      | node kind => simp only [mapVisited, map, same, mapAll_mapFields same fields]
    | _ => rfl
  | .array _ count elements, type => by
    cases type with
    | sequence target =>
      simp only [mapVisited, map, mapAll_mapElements same elements, apply_ite blind, same, ite_self]
    | _ => rfl

theorem mapAll_mapFields {change : Mark → Mark} {blind : Mark → Other}
    (same : ∀ mark, blind (change mark) = blind mark) : (figures : List (Figure Mark)) →
    (fields : List Field) → mapAll blind (mapFields change fields figures) = mapAll blind figures
  | [], fields => by cases fields <;> rfl
  | head :: tail, fields => by
    cases fields with
    | nil => rfl
    | cons field fields =>
      rw [mapFields, mapAll, mapAll, map_mapVisited same head, mapAll_mapFields same tail]

theorem mapAll_mapElements {change : Mark → Mark} {blind : Mark → Other}
    (same : ∀ mark, blind (change mark) = blind mark) {target : Target} :
    (figures : List (Figure Mark)) → (count : Nat) →
    mapAll blind (mapElements change target count figures) = mapAll blind figures
  | [], count => by cases count <;> rfl
  | head :: tail, count => by
    cases count with
    | zero => rfl
    | succ count =>
      rw [mapElements, mapAll, mapAll, map_mapVisited same head, mapAll_mapElements same tail]

end

/-- A figure without any marks. -/
def unmarked (figure : Figure Mark) : Figure Unit := figure.map fun _ => ()

theorem content_unmarked (figure : Figure Mark) (type : FieldType) :
    figure.unmarked.content type = figure.content type :=
  figure.content_map _ type

theorem unmarked_mapVisited (change : Mark → Mark) (figure : Figure Mark) (type : FieldType) :
    (figure.mapVisited change type).unmarked = figure.unmarked :=
  @map_mapVisited _ _ change (fun _ => ()) (fun _ => rfl) figure type

/-- Two ways to mark some cells differ by a change of those that are visited. -/
structure Differs (before after : Mark → Other) (change : Other → Other)
    (cells visited : List Mark) : Prop where
  changed : ∀ mark ∈ visited, after mark = change (before mark)
  same : ∀ mark ∈ cells, mark ∉ visited → after mark = before mark

/-- What holds of the cells of a figure and those behind it holds of each alone, since they have
nothing in common. -/
theorem Differs.split {before after : Mark → Other} {change : Other → Other}
    {first second firstVisited secondVisited : List Mark}
    (differs : Differs before after change (first ++ second) (firstVisited ++ secondVisited))
    (distinct : (first ++ second).Nodup) (firstInside : firstVisited ⊆ first)
    (secondInside : secondVisited ⊆ second) :
    Differs before after change first firstVisited ∧
      Differs before after change second secondVisited := by
  have disjoint := (List.nodup_append'.mp distinct).2.2
  refine ⟨⟨fun mark member => differs.changed mark (List.mem_append_left _ member), ?_⟩,
    ⟨fun mark member => differs.changed mark (List.mem_append_right _ member), ?_⟩⟩
  · intro mark member missed
    refine differs.same mark (List.mem_append_left _ member) fun inside => ?_
    exact (List.mem_append.mp inside).elim missed fun other => disjoint member (secondInside other)
  · intro mark member missed
    refine differs.same mark (List.mem_append_right _ member) fun inside => ?_
    exact (List.mem_append.mp inside).elim (fun other => disjoint (firstInside other) member) missed

mutual

/-- Changing the marks of the visited cells is marking the cells in another way. -/
theorem map_eq_mapVisited {before after : Mark → Other} {change : Other → Other} :
    (figure : Figure Mark) → (type : FieldType) → figure.marks.Nodup →
    Differs before after change figure.marks (figure.visited type) →
    figure.map after = (figure.map before).mapVisited change type
  | .leaf _, _, _, _ => by simp only [map, mapVisited]
  | .text mark _, _, _, differs => by
    simp only [map, mapVisited, differs.changed mark (by simp only [visited, List.mem_singleton])]
  | .record mark actual fields, type, distinct, differs => by
    cases type with
    | pointer target =>
      cases target with
      | text => exact map_congr _ fun mark member => differs.same mark member List.not_mem_nil
      | node kind =>
        rw [marks, visited] at differs
        obtain ⟨below, own⟩ := differs.split distinct
          (fieldsVisited_sublist fields _).subset (List.Subset.refl _)
        have distinctBelow := (List.nodup_append'.mp distinct).1
        rw [map, map, mapVisited, own.changed mark (List.mem_singleton.mpr rfl), seenAs_mapAll,
          mapAll_eq_mapFields fields _ distinctBelow below]
    | _ => exact map_congr _ fun mark member => differs.same mark member List.not_mem_nil
  | .array mark count elements, type, distinct, differs => by
    cases type with
    | sequence target =>
      rw [marks, visited] at differs
      have inside : (if count = 0 then [] else [mark]) ⊆ [mark] := by
        split
        · exact List.nil_subset _
        · exact List.Subset.refl _
      obtain ⟨below, own⟩ := differs.split distinct
        (elementsVisited_sublist elements count).subset inside
      have distinctBelow := (List.nodup_append'.mp distinct).1
      have marked : after mark = if count = 0 then before mark else change (before mark) := by
        split
        · rename_i none
          exact own.same mark (List.mem_singleton.mpr rfl) (by simp [none])
        · rename_i some
          exact own.changed mark (by simp [some])
      rw [map, map, mapVisited, marked, mapAll_eq_mapElements elements count distinctBelow below]
    | _ => exact map_congr _ fun mark member => differs.same mark member List.not_mem_nil

theorem mapAll_eq_mapFields {before after : Mark → Other} {change : Other → Other} :
    (figures : List (Figure Mark)) → (fields : List Field) → (marksAll figures).Nodup →
    Differs before after change (marksAll figures) (fieldsVisited fields figures) →
    mapAll after figures = mapFields change fields (mapAll before figures)
  | [], fields, _, _ => by cases fields <;> rfl
  | head :: tail, fields, distinct, differs => by
    cases fields with
    | nil => exact mapAll_congr _ fun mark member => differs.same mark member List.not_mem_nil
    | cons field fields =>
      rw [marksAll, fieldsVisited] at differs
      obtain ⟨first, others⟩ := differs.split distinct (visited_sublist head _).subset
        (fieldsVisited_sublist tail _).subset
      obtain ⟨firstDistinct, othersDistinct, -⟩ := List.nodup_append'.mp distinct
      rw [mapAll, mapAll, mapFields, map_eq_mapVisited head _ firstDistinct first,
        mapAll_eq_mapFields tail _ othersDistinct others]

theorem mapAll_eq_mapElements {before after : Mark → Other} {change : Other → Other}
    {target : Target} : (figures : List (Figure Mark)) → (count : Nat) →
    (marksAll figures).Nodup →
    Differs before after change (marksAll figures) (elementsVisited target count figures) →
    mapAll after figures = mapElements change target count (mapAll before figures)
  | [], count, _, _ => by cases count <;> rfl
  | head :: tail, count, distinct, differs => by
    cases count with
    | zero => exact mapAll_congr _ fun mark member => differs.same mark member List.not_mem_nil
    | succ count =>
      rw [marksAll, elementsVisited] at differs
      obtain ⟨first, others⟩ := differs.split distinct (visited_sublist head _).subset
        (elementsVisited_sublist tail _).subset
      obtain ⟨firstDistinct, othersDistinct, -⟩ := List.nodup_append'.mp distinct
      rw [mapAll, mapAll, mapElements, map_eq_mapVisited head _ firstDistinct first,
        mapAll_eq_mapElements tail _ othersDistinct others]

end

/-! ### Figures that fit -/

/-- Whether a slot that leads nowhere may stand in a field of a type. -/
def leafFits : FieldType → Slot → Bool
  | .tag, .tag _ => true
  | .flag, .flag _ => true
  | .place, .place _ => true
  | .int, .int _ => true
  | .size, .size _ => true
  | .double, .double _ => true
  | .pointer _, .pointer none => true
  | .sequence _, .sequence .absent _ => true
  | .sequence _, .sequence .empty count => count = 0
  | _, _ => false

mutual

/-- Whether a figure may stand in a field of a type: all that it leads to is of the types that it
is meant for, a statement that is seen as a select has all the fields of one, no sequence counts
more elements than there are, and no text holds a zero character. -/
def Fits : FieldType → Figure Mark → Prop
  | type, .leaf slot => leafFits type slot = true
  | .pointer .text, .text _ value => cutAtZero value = value
  | .pointer (.node kind), .record _ actual fields =>
    actual.mayBeSeen (seenAs kind fields) = true ∧ FieldsFit actual.fields fields
  | .sequence target, .array _ count elements =>
    count ≤ elements.length ∧ ElementsFit target elements
  | _, _ => False
termination_by structural _ figure => figure

/-- Whether figures may stand in some fields, one in each. -/
def FieldsFit : List Field → List (Figure Mark) → Prop
  | [], [] => True
  | field :: fields, head :: tail => head.Fits field.type ∧ FieldsFit fields tail
  | _, _ => False
termination_by structural _ figures => figures

/-- Whether figures may stand in an array. -/
def ElementsFit (target : Target) : List (Figure Mark) → Prop
  | [] => True
  | head :: tail => head.Fits (.pointer target) ∧ ElementsFit target tail
termination_by structural figures => figures

end

theorem fits_text {mark : Mark} {value : String} {type : FieldType} :
    (text mark value).Fits type ↔ type = .pointer .text ∧ cutAtZero value = value := by
  cases type with
  | pointer target => cases target <;> simp [Fits]
  | _ => simp [Fits]

theorem fits_record {mark : Mark} {actual : Kind} {fields : List (Figure Mark)}
    {type : FieldType} : (record mark actual fields).Fits type ↔
      ∃ kind, type = .pointer (.node kind) ∧ actual.mayBeSeen (seenAs kind fields) = true ∧
        FieldsFit actual.fields fields := by
  cases type with
  | pointer target => cases target <;> simp [Fits]
  | _ => simp [Fits]

theorem fits_array {mark : Mark} {count : Nat} {elements : List (Figure Mark)}
    {type : FieldType} : (array mark count elements).Fits type ↔
      ∃ target, type = .sequence target ∧ count ≤ elements.length ∧
        ElementsFit target elements := by
  cases type <;> simp [Fits]

theorem FieldsFit.length {figures : List (Figure Mark)} {fields : List Field}
    (fit : FieldsFit fields figures) : figures.length = fields.length := by
  induction fields generalizing figures with
  | nil =>
    cases figures with
    | nil => rfl
    | cons head tail => exact fit.elim
  | cons field fields inductionHypothesis =>
    cases figures with
    | nil => exact fit.elim
    | cons head tail => exact congrArg (· + 1) (inductionHypothesis fit.2)

theorem fieldsFit_iff {fields : List Field} {figures : List (Figure Mark)} :
    FieldsFit fields figures ↔
      List.Forall₂ (fun field figure => figure.Fits field.type) fields figures := by
  induction fields generalizing figures with
  | nil => cases figures <;> simp [FieldsFit]
  | cons field fields inductionHypothesis =>
    cases figures with
    | nil => simp [FieldsFit]
    | cons head tail => simp [FieldsFit, inductionHypothesis]

theorem elementsFit_iff {target : Target} {figures : List (Figure Mark)} :
    ElementsFit target figures ↔ ∀ figure ∈ figures, figure.Fits (.pointer target) := by
  induction figures with
  | nil => simp [ElementsFit]
  | cons head tail inductionHypothesis => simp [ElementsFit, inductionHypothesis]

mutual

/-- Whether a figure fits does not depend on the marks. -/
theorem fits_map (change : Mark → Other) : (figure : Figure Mark) → (type : FieldType) →
    (figure.map change).Fits type ↔ figure.Fits type
  | .leaf _, _ => by simp only [map, Fits]
  | .text _ _, type => by
    cases type with
    | pointer target => cases target <;> exact Iff.rfl
    | _ => exact Iff.rfl
  | .record _ _ fields, type => by
    cases type with
    | pointer target =>
      cases target with
      | text => exact Iff.rfl
      | node kind => simp only [map, Fits, seenAs_mapAll, fieldsFit_mapAll change fields]
    | _ => exact Iff.rfl
  | .array _ _ elements, type => by
    cases type with
    | sequence target =>
      simp only [map, Fits, mapAll_eq_map, List.length_map, ← elementsFit_mapAll change elements]
    | _ => exact Iff.rfl

theorem fieldsFit_mapAll (change : Mark → Other) : (figures : List (Figure Mark)) →
    (fields : List Field) → FieldsFit fields (mapAll change figures) ↔ FieldsFit fields figures
  | [], fields => by cases fields <;> exact Iff.rfl
  | head :: tail, fields => by
    cases fields with
    | nil => exact Iff.rfl
    | cons field fields =>
      exact and_congr (fits_map change head _) (fieldsFit_mapAll change tail fields)

theorem elementsFit_mapAll (change : Mark → Other) {target : Target} :
    (figures : List (Figure Mark)) →
    (ElementsFit target (mapAll change figures) ↔ ElementsFit target figures)
  | [] => Iff.rfl
  | head :: tail => and_congr (fits_map change head _) (elementsFit_mapAll change tail)

end

/-- The fields that a record is seen with are the first of those that it has. -/
theorem fields_of_mayBeSeen {actual seen : Kind} (mayBe : actual.mayBeSeen seen = true) :
    ∃ unseen, actual.fields = seen.fields ++ unseen := by
  simp only [Kind.mayBeSeen, Bool.or_eq_true, Bool.and_eq_true, decide_eq_true_eq] at mayBe
  rcases mayBe with rfl | ⟨rfl, rfl⟩
  · exact ⟨[], (List.append_nil _).symm⟩
  · exact ⟨_, rfl⟩

end Figure

end SqlImage.Image
