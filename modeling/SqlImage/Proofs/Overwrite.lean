/-
This file overwrites one place of a figure. The path is followed one step at a time,
and the figure at its end is exchanged for what the new value is. Nothing here
depends on where the cells are, so overwriting commutes with any change of the marks.
A figure that fits still fits afterwards, and apart from a fresh text it has no cell
that it did not have before.
-/

import SqlImage.Image.Poke
import SqlImage.Proofs.Figure
import SqlImage.Proofs.Sound

namespace SqlImage.Image

/-- The marks of the cells that a new value brings along. -/
def Patch.marks {Mark : Type} (fresh : Mark) : Patch → List Mark
  | .text _ => [fresh]
  | _ => []

namespace Figure

variable {Mark Other : Type}

/-! ### Overwriting -/

/-- What a field with a figure holds, if nothing is said about where the cells are. -/
def bare : Figure Mark → Slot
  | .leaf slot => slot
  | .array _ count _ => .sequence .absent count
  | _ => .pointer none

/-- What takes the place of a figure in a field of a type. A fresh text is given a mark. -/
def patched (fresh : Mark) (type : FieldType) : Figure Mark → Patch → Except PokeFault (Figure Mark)
  | _, .text value =>
    if type = .pointer .text then .ok (.text fresh (cutAtZero value)) else .error .badValue
  | .array mark count elements, .integer value =>
    if 0 ≤ value ∧ value ≤ count then .ok (.array mark value.toNat elements)
    else .error .badValue
  | figure, patch => (patchedSlot .empty type figure.bare patch).map fun patched => .leaf patched.1

/-- Overwrites what a path leads to from a figure in a field of a type. -/
def overwrite (fresh : Mark) (patch : Patch) :
    List Key → FieldType → Figure Mark → Except PokeFault (Figure Mark)
  | [], type, figure => figure.patched fresh type patch
  | .field name :: rest, .pointer (.node kind), .record mark actual fields =>
    match (seenAs kind fields).field? name with
    | none => .error .badPath
    | some (position, field) =>
      match fields[position]? with
      | none => .error .badPath
      | some old =>
        match overwrite fresh patch rest field.type old with
        | .error fault => .error fault
        | .ok new =>
          if wouldPromote (seenAs kind fields) position new.bare then .error .refused
          else .ok (.record mark actual (fields.set position new))
  | .element position :: rest, .sequence target, .array mark count elements =>
    match (elements.take count)[position]? with
    | none => .error .badPath
    | some old =>
      match overwrite fresh patch rest (.pointer target) old with
      | .error fault => .error fault
      | .ok new => .ok (.array mark count (elements.set position new))
  | _, _, _ => .error .badPath

/-- No path leads on from a slot that leads nowhere. -/
theorem overwrite_leaf (fresh : Mark) (patch : Patch) (key : Key) (rest : List Key)
    (type : FieldType) (slot : Slot) :
    (leaf slot).overwrite fresh patch (key :: rest) type = .error .badPath := by
  unfold overwrite
  split <;> first | rfl | contradiction

/-- Overwrites a place of the figure of an image. The root itself is no place. -/
def poke (fresh : Mark) (path : List Key) (patch : Patch) (figure : Figure Mark) :
    Except PokeFault (Figure Mark) :=
  if path = [] then .error .badPath
  else figure.overwrite fresh patch path (.pointer (.node .result))

/-! ### The marks do not matter -/

theorem bare_map (change : Mark → Other) (figure : Figure Mark) :
    (figure.map change).bare = figure.bare := by
  cases figure <;> rfl

theorem patched_map (change : Mark → Other) (fresh : Mark) (type : FieldType)
    (figure : Figure Mark) (patch : Patch) :
    (figure.map change).patched (change fresh) type patch =
      (figure.patched fresh type patch).map (map change) := by
  have plain : ∀ result : Except PokeFault (Slot × Heap),
      result.map (fun patched => Figure.leaf patched.1) =
        (result.map fun patched => Figure.leaf patched.1).map (map change) := by
    intro result
    cases result <;> rfl
  cases patch with
  | text value =>
    cases figure <;> simp only [patched] <;> split <;> rfl
  | integer value =>
    cases figure with
    | array mark count elements =>
      simp only [map, patched]
      split <;> rfl
    | _ => exact plain _
  | _ => cases figure <;> exact plain _

/-- Overwriting a figure is the same whatever the marks are. -/
theorem overwrite_map (change : Mark → Other) (fresh : Mark) (patch : Patch) (path : List Key)
    (type : FieldType) (figure : Figure Mark) :
    (figure.map change).overwrite (change fresh) patch path type =
      (figure.overwrite fresh patch path type).map (map change) := by
  induction path generalizing type figure with
  | nil => exact patched_map change fresh type figure patch
  | cons key rest inductionHypothesis =>
    cases key with
    | field name =>
      cases figure with
      | record mark actual fields =>
        cases type with
        | pointer target =>
          cases target with
          | node kind =>
            simp only [map, overwrite, seenAs_mapAll]
            simp only [mapAll_eq_map, List.getElem?_map]
            cases (seenAs kind fields).field? name with
            | none => rfl
            | some place =>
              obtain ⟨position, field⟩ := place
              dsimp only
              cases fields[position]? with
              | none => rfl
              | some old =>
                simp only [Option.map_some, inductionHypothesis]
                cases overwrite fresh patch rest field.type old with
                | error fault => rfl
                | ok new =>
                  simp only [Except.map, bare_map]
                  split
                  · rfl
                  · simp only [map, mapAll_eq_map, List.map_set]
          | text => rfl
        | _ => rfl
      | _ =>
        cases type with
        | pointer target => cases target <;> rfl
        | _ => rfl
    | element position =>
      cases figure with
      | array mark count elements =>
        cases type with
        | sequence target =>
          simp only [map, overwrite, mapAll_eq_map, ← List.map_take, List.getElem?_map]
          cases (elements.take count)[position]? with
          | none => rfl
          | some old =>
            simp only [Option.map_some, inductionHypothesis]
            cases overwrite fresh patch rest (.pointer target) old with
            | error fault => rfl
            | ok new => simp only [Except.map, map, mapAll_eq_map, List.map_set]
        | _ => rfl
      | _ => cases type <;> rfl
    | unfit => cases figure <;> rfl

theorem poke_map (figure : Figure Mark) (change : Mark → Other) (fresh : Mark) (path : List Key)
    (patch : Patch) : (figure.map change).poke (change fresh) path patch =
      (figure.poke fresh path patch).map (map change) := by
  unfold poke
  split
  · rfl
  · exact overwrite_map change fresh patch path _ figure

theorem poke_unmarked (fresh : Mark) (path : List Key) (patch : Patch) (figure : Figure Mark) :
    figure.unmarked.poke () path patch = (figure.poke fresh path patch).map unmarked :=
  figure.poke_map (fun _ => ()) fresh path patch

/-- Figures that differ in their marks alone are overwritten alike. -/
theorem poke_congr {first second : Figure Mark} (same : first.unmarked = second.unmarked)
    (fresh : Mark) (path : List Key) (patch : Patch) :
    (∃ fault, first.poke fresh path patch = .error fault ∧
      second.poke fresh path patch = .error fault) ∨
    ∃ new other, first.poke fresh path patch = .ok new ∧ second.poke fresh path patch = .ok other ∧
      new.unmarked = other.unmarked := by
  have alike := first.poke_unmarked fresh path patch
  rw [same, second.poke_unmarked fresh] at alike
  cases firstDone : first.poke fresh path patch with
  | error fault =>
    rw [firstDone] at alike
    cases secondDone : second.poke fresh path patch with
    | error other =>
      rw [secondDone] at alike
      cases alike
      exact .inl ⟨_, rfl, rfl⟩
    | ok other =>
      rw [secondDone] at alike
      cases alike
  | ok new =>
    rw [firstDone] at alike
    cases secondDone : second.poke fresh path patch with
    | error fault =>
      rw [secondDone] at alike
      cases alike
    | ok other =>
      rw [secondDone] at alike
      exact .inr ⟨new, other, rfl, rfl, (Except.ok.inj alike).symm⟩

/-! ### What is exchanged -/

/-- What it comes to that a place of a figure is overwritten. -/
inductive Overwrites (fresh : Mark) (patch : Patch) :
    List Key → FieldType → Figure Mark → Figure Mark → Prop
  | here {type : FieldType} {old new : Figure Mark}
    (patched : old.patched fresh type patch = .ok new) : Overwrites fresh patch [] type old new
  | field {name : String} {rest : List Key} {kind actual : Kind} {mark : Mark}
    {fields : List (Figure Mark)} {position : Nat} {field : Field} {old new : Figure Mark}
    (named : (seenAs kind fields).field? name = some (position, field))
    (there : fields[position]? = some old) (below : Overwrites fresh patch rest field.type old new)
    (kept : wouldPromote (seenAs kind fields) position new.bare = false) :
    Overwrites fresh patch (.field name :: rest) (.pointer (.node kind))
      (.record mark actual fields) (.record mark actual (fields.set position new))
  | element {position count : Nat} {rest : List Key} {target : Target} {mark : Mark}
    {elements : List (Figure Mark)} {old new : Figure Mark} (counted : position < count)
    (there : elements[position]? = some old)
    (below : Overwrites fresh patch rest (.pointer target) old new) :
    Overwrites fresh patch (.element position :: rest) (.sequence target)
      (.array mark count elements) (.array mark count (elements.set position new))

/-- Overwriting succeeds only in this way. -/
theorem overwrites_of_ok {fresh : Mark} {patch : Patch} {path : List Key} {type : FieldType}
    {figure new : Figure Mark} (done : figure.overwrite fresh patch path type = .ok new) :
    Overwrites fresh patch path type figure new := by
  induction path generalizing type figure new with
  | nil => exact .here done
  | cons key rest inductionHypothesis =>
    unfold overwrite at done
    split at done
    · cases ‹_ :: _ = []›
    · rename_i kind mark actual fields same
      cases same
      split at done
      · cases done
      · rename_i position field named
        split at done
        · cases done
        · rename_i old there
          split at done
          · cases done
          · rename_i changed below
            split at done
            · cases done
            · rename_i kept
              cases done
              exact .field named there (inductionHypothesis below) (Bool.eq_false_iff.mpr kept)
    · rename_i target mark count elements same
      cases same
      split at done
      · cases done
      · rename_i old there
        rw [List.getElem?_take, Option.ite_none_right_eq_some] at there
        obtain ⟨counted, there⟩ := there
        split at done
        · cases done
        · rename_i changed below
          cases done
          exact .element counted there (inductionHypothesis below)
    · cases done

/-- What takes the place of a figure. -/
inductive Patches (fresh : Mark) : FieldType → Patch → Figure Mark → Figure Mark → Prop
  | text {old : Figure Mark} (value : String) :
    Patches fresh (.pointer .text) (.text value) old (.text fresh (cutAtZero value))
  | count {type : FieldType} {mark : Mark} {count fewer : Nat} {elements : List (Figure Mark)}
    (inside : fewer ≤ count) : Patches fresh type (.integer fewer)
      (.array mark count elements) (.array mark fewer elements)
  | leaf {type : FieldType} {patch : Patch} {old : Figure Mark} {slot : Slot} {heap : Heap}
    (plain : patch.marks fresh = [])
    (done : patchedSlot .empty type old.bare patch = .ok (slot, heap)) :
    Patches fresh type patch old (.leaf slot)

theorem patches_of_ok {fresh : Mark} {type : FieldType} {old new : Figure Mark} {patch : Patch}
    (done : old.patched fresh type patch = .ok new) : Patches fresh type patch old new := by
  unfold patched at done
  split at done
  · split at done
    · rename_i value same
      cases done
      exact same ▸ .text value
    · cases done
  · rename_i mark count elements value
    split at done
    · rename_i inside
      cases done
      obtain ⟨fewer, rfl⟩ := Int.eq_ofNat_of_zero_le inside.1
      exact .count (Int.ofNat_le.mp inside.2)
    · cases done
  · rename_i noText _
    cases result : patchedSlot .empty type old.bare patch with
    | error fault =>
      rw [result] at done
      cases done
    | ok patched =>
      rw [result] at done
      cases done
      refine .leaf ?_ result
      cases patch <;> first | rfl | exact (noText _ rfl).elim

/-! ### What becomes of a figure that fits -/

theorem seen_statement (slots : List Slot) :
    Kind.statement.seen slots = .select ∨ Kind.statement.seen slots = .statement := by
  unfold Kind.seen
  split
  · split
    · exact .inl rfl
    · exact .inr rfl
  · exact .inr rfl

theorem seenAs_cons (head : Figure Mark) (tail : List (Figure Mark)) :
    seenAs .statement (head :: tail) = Kind.statement.seen [head.bare] := by
  cases head <;> rfl

/-- A record is seen as before, unless it is a statement that was tagged as a select. -/
theorem seenAs_set {kind : Kind} {fields : List (Figure Mark)} {position : Nat}
    {old new : Figure Mark} (there : fields[position]? = some old)
    (kept : wouldPromote (seenAs kind fields) position new.bare = false) :
    seenAs kind (fields.set position new) = seenAs kind fields ∨
      kind = .statement ∧ position = 0 ∧ seenAs kind fields = .select ∧
        seenAs kind (fields.set position new) = .statement := by
  cases kind <;> try exact .inl rfl
  cases fields with
  | nil => cases there
  | cons head tail =>
    cases position with
    | succ position => exact .inl (by rw [List.set_cons_succ, seenAs_cons, seenAs_cons])
    | zero =>
      rw [seenAs_cons] at kept
      rw [List.set_cons_zero, seenAs_cons, seenAs_cons]
      rcases seen_statement [head.bare] with before | before <;>
        rcases seen_statement [new.bare] with after | after
      · exact .inl (after.trans before.symm)
      · exact .inr ⟨rfl, rfl, before, after⟩
      · simp [wouldPromote, before, after] at kept
      · exact .inl (after.trans before.symm)

/-- A slot that takes the place of another one is of the type that is meant. -/
theorem leafFits_of_patchedSlot {type : FieldType} {old : Figure Mark} {fresh : Mark}
    {patch : Patch} {slot : Slot} {heap : Heap} (fits : old.Fits type)
    (plain : patch.marks fresh = [])
    (done : patchedSlot .empty type old.bare patch = .ok (slot, heap)) :
    leafFits type slot = true := by
  unfold patchedSlot at done
  split at done
  all_goals try split at done
  all_goals try cases done
  all_goals try rfl
  · cases plain
  · -- Of the sequences, only one that is there without an element still has to be looked at.
    rename_i elements count value there same inside
    cases old with
    | leaf slot =>
      cases same
      cases elements with
      | absent => exact (there rfl).elim
      | empty =>
        have none : count = 0 := of_decide_eq_true fits
        simp only [leafFits, decide_eq_true_eq]
        omega
      | array address => cases fits
    | array mark count elements =>
      cases same
      exact (there rfl).elim
    | _ => cases same

theorem Patches.fits {fresh : Mark} {type : FieldType} {old new : Figure Mark} {patch : Patch}
    (patches : Patches fresh type patch old new) (fits : old.Fits type) : new.Fits type := by
  cases patches with
  | text value => exact cutAtZero_cutAtZero value
  | @count type mark count fewer elements inside =>
    obtain ⟨target, rfl, counted, fit⟩ := Figure.fits_array.mp fits
    exact ⟨inside.trans counted, fit⟩
  | leaf plain done =>
    rw [Fits]
    exact leafFits_of_patchedSlot fits plain done

theorem FieldsFit.set {fields : List Field} {figures : List (Figure Mark)} {position : Nat}
    {field : Field} {new : Figure Mark} (fit : FieldsFit fields figures)
    (named : fields[position]? = some field) (fits : new.Fits field.type) :
    FieldsFit fields (figures.set position new) := by
  induction fields generalizing figures position with
  | nil => cases named
  | cons head rest inductionHypothesis =>
    cases figures with
    | nil => exact fit.elim
    | cons first others =>
      cases position with
      | zero =>
        cases named
        exact ⟨fits, fit.2⟩
      | succ position => exact ⟨fit.1, inductionHypothesis fit.2 named⟩

theorem FieldsFit.getElem? {fields : List Field} {figures : List (Figure Mark)} {position : Nat}
    {field : Field} {old : Figure Mark} (fit : FieldsFit fields figures)
    (named : fields[position]? = some field) (there : figures[position]? = some old) :
    old.Fits field.type := by
  induction fields generalizing figures position with
  | nil => cases named
  | cons head rest inductionHypothesis =>
    cases figures with
    | nil => exact fit.elim
    | cons first others =>
      cases position with
      | zero =>
        cases named
        cases there
        exact fit.1
      | succ position => exact inductionHypothesis fit.2 named there

theorem field?_getElem? {kind : Kind} {name : String} {position : Nat} {field : Field}
    (named : kind.field? name = some (position, field)) : kind.fields[position]? = some field := by
  unfold Kind.field? at named
  split at named
  · cases named
  · obtain ⟨found, there, same⟩ := Option.map_eq_some_iff.mp named
    cases same
    exact there

/-- A record has every field that it is seen with. -/
theorem getElem?_of_mayBeSeen {actual seen : Kind} {position : Nat} {field : Field}
    (mayBe : actual.mayBeSeen seen = true) (named : seen.fields[position]? = some field) :
    actual.fields[position]? = some field := by
  obtain ⟨unseen, prefixed⟩ := fields_of_mayBeSeen mayBe
  rwa [prefixed, List.getElem?_append_left (List.getElem?_eq_some_iff.mp named).1]

/-- A field that a record is seen with is there, and what it holds fits. -/
theorem FieldsFit.exists_of_seen {actual seen : Kind} {fields : List (Figure Mark)}
    {position : Nat} {field : Field} (fit : FieldsFit actual.fields fields)
    (mayBe : actual.mayBeSeen seen = true) (named : seen.fields[position]? = some field) :
    ∃ old, fields[position]? = some old ∧ old.Fits field.type := by
  have actualField := getElem?_of_mayBeSeen mayBe named
  have inside : position < fields.length := by
    rw [fit.length]
    exact (List.getElem?_eq_some_iff.mp actualField).1
  have there := List.getElem?_eq_getElem inside
  exact ⟨_, there, fit.getElem? actualField there⟩

/-- A figure that fits still fits when a place of it is overwritten. -/
theorem Overwrites.fits {fresh : Mark} {patch : Patch} {path : List Key} {type : FieldType}
    {old new : Figure Mark} (overwrites : Overwrites fresh patch path type old new)
    (fits : old.Fits type) : new.Fits type := by
  induction overwrites with
  | here patched => exact (patches_of_ok patched).fits fits
  | @field name rest kind actual mark fields position field old new named there below kept
      inductionHypothesis =>
    obtain ⟨mayBe, fit⟩ := fits
    have actualField := getElem?_of_mayBeSeen mayBe (field?_getElem? named)
    have newFits := inductionHypothesis (fit.getElem? actualField there)
    refine ⟨?_, fit.set actualField newFits⟩
    rcases seenAs_set there kept with same | ⟨-, -, before, after⟩
    · rwa [same]
    · rw [after]
      rw [before] at mayBe
      simp only [Kind.mayBeSeen, Bool.or_eq_true, Bool.and_eq_true, decide_eq_true_eq] at mayBe ⊢
      exact .inr ⟨mayBe.resolve_right fun both => Kind.noConfusion both.2, trivial⟩
  | @element position count rest target mark elements old new counted there below
      inductionHypothesis =>
    obtain ⟨inside, fit⟩ := fits
    have member := List.mem_of_getElem? there
    refine ⟨by rwa [List.length_set], elementsFit_iff.mpr fun figure inNew => ?_⟩
    rcases List.mem_or_eq_of_mem_set inNew with same | rfl
    · exact elementsFit_iff.mp fit figure same
    · exact inductionHypothesis (elementsFit_iff.mp fit old member)

/-! ### What becomes of the cells -/

theorem Patches.marks {fresh : Mark} {type : FieldType} {old new : Figure Mark} {patch : Patch}
    (patches : Patches fresh type patch old new) :
    ∃ lost, (new.marks ++ lost).Perm (old.marks ++ patch.marks fresh) := by
  cases patches with
  | text value => exact ⟨old.marks, List.perm_append_comm⟩
  | count inside => exact ⟨[], .refl _⟩
  | leaf plain done => exact ⟨old.marks, by rw [plain, List.append_nil]; exact .refl _⟩

/-- What is exchanged in the front of a list may stand before others. -/
theorem exchanged_append {new lost old fresh : List Mark}
    (exchanged : (new ++ lost).Perm (old ++ fresh)) (others : List Mark) :
    (new ++ others ++ lost).Perm (old ++ others ++ fresh) := by
  have swapped : ∀ first second : List Mark,
      (first ++ others ++ second).Perm (first ++ second ++ others) := by
    intro first second
    rw [List.append_assoc, List.append_assoc]
    exact List.perm_append_comm.append_left first
  exact (swapped new lost).trans ((exchanged.append_right others).trans (swapped old fresh).symm)

/-- Exchanging one of several figures exchanges its marks. -/
theorem marksAll_set {figures : List (Figure Mark)} {position : Nat} {old new : Figure Mark}
    {lost fresh : List Mark} (there : figures[position]? = some old)
    (exchanged : (new.marks ++ lost).Perm (old.marks ++ fresh)) :
    (marksAll (figures.set position new) ++ lost).Perm (marksAll figures ++ fresh) := by
  induction figures generalizing position with
  | nil => cases there
  | cons head tail inductionHypothesis =>
    cases position with
    | zero =>
      cases there
      exact exchanged_append exchanged (marksAll tail)
    | succ position =>
      rw [List.set_cons_succ, marksAll, marksAll, List.append_assoc, List.append_assoc]
      exact (inductionHypothesis there).append_left _

/-- Apart from what the new value brings along, a figure has no cell that it did not have before,
and none twice. -/
theorem Overwrites.marks {fresh : Mark} {patch : Patch} {path : List Key} {type : FieldType}
    {old new : Figure Mark} (overwrites : Overwrites fresh patch path type old new) :
    ∃ lost, (new.marks ++ lost).Perm (old.marks ++ patch.marks fresh) := by
  induction overwrites with
  | here patched => exact (patches_of_ok patched).marks
  | field named there below kept inductionHypothesis =>
    obtain ⟨lost, exchanged⟩ := inductionHypothesis
    exact ⟨lost, exchanged_append (marksAll_set there exchanged) _⟩
  | element counted there below inductionHypothesis =>
    obtain ⟨lost, exchanged⟩ := inductionHypothesis
    exact ⟨lost, exchanged_append (marksAll_set there exchanged) _⟩

end Figure

end SqlImage.Image
