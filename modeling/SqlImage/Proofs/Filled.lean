/-
This file says all that putting the clauses of a query into their slots can do. A
slot holds one clause at most, so a clause only goes into an empty one. Named
queries go into the slot of the select. An order and a limit go into the slots of
the set operation that stands last, or into those of the select if there is none.
Whatever is proved about clauses in a tree can start from here.
-/

import SqlImage.Lowering.Slots
import SqlImage.Proofs.Outcome

namespace SqlImage.Lowering

open SqlImage.Tree

/-! ### One slot -/

/-- What a slot holds after a clause was put into it. Without a clause that is what it held, and a
clause only goes into an empty slot. -/
inductive Receives {α : Type} (slot : Option α) : (clause filled : Option α) → Prop where
  | nothing : Receives slot none slot
  | clause (isEmpty : slot = none) (value : α) : Receives slot (some value) (some value)

section Slot

variable {α : Type} {cause : Unsupported} {slot clause filled : Option α}

theorem fill_eq_ok : fill cause slot clause = .ok filled ↔ Receives slot clause filled := by
  constructor
  · intro done
    cases clause with
    | none =>
      cases done
      exact .nothing
    | some value =>
      cases slot with
      | none =>
        cases done
        exact .clause rfl value
      | some held => cases done
  · rintro (_ | ⟨rfl, value⟩)
    · rfl
    · rfl

/-- A slot holds what it held, or the clause that is put into it. -/
theorem Receives.eq_or_eq (receives : Receives slot clause filled) :
    filled = slot ∨ filled = clause := by
  cases receives with
  | nothing => exact .inl rfl
  | clause => exact .inr rfl

/-- A clause is put into a slot only if there is no clause or the slot is empty. -/
theorem Receives.eq_or (receives : Receives slot clause filled) :
    (slot = none ∨ clause = none) ∧ filled = clause.or slot := by
  cases receives with
  | nothing => exact ⟨.inr rfl, rfl⟩
  | clause isEmpty value => exact ⟨.inl isEmpty, rfl⟩

theorem Receives.map {β : Type} (receives : Receives slot clause filled) (change : α → β) :
    Receives (slot.map change) (clause.map change) (filled.map change) := by
  cases receives with
  | nothing => exact .nothing
  | clause isEmpty value => exact .clause (congrArg (Option.map change) isEmpty) (change value)

end Slot

/-! ### The slots of a tree -/

theorem fillTables_eq_ok {tables : Option (List With)} {select filled : Select} :
    fillTables tables select = .ok filled ↔ ∃ withDescriptions,
      Receives select.withDescriptions tables withDescriptions ∧
        { select with withDescriptions } = filled := by
  simp only [fillTables, bind_eq_ok, pure_eq_ok, fill_eq_ok]

section Rows

variable {order : Option (List Order)} {limit : Option Limit}

theorem fillOperation_eq_ok {operation filled : SetOperation} :
    fillOperation order limit operation = .ok filled ↔ ∃ resultOrder,
      Receives operation.resultOrder order resultOrder ∧ ∃ resultLimit,
        Receives operation.resultLimit limit resultLimit ∧
          { operation with resultOrder, resultLimit } = filled := by
  simp only [fillOperation, bind_eq_ok, pure_eq_ok, fill_eq_ok]

/-- Only the last set operation is changed. -/
theorem fillLast_eq_ok {first : SetOperation} {rest filled : List SetOperation}
    (done : fillLast order limit first rest = .ok filled) :
    ∃ earlier last changed, first :: rest = earlier ++ [last] ∧
      fillOperation order limit last = .ok changed ∧ filled = earlier ++ [changed] := by
  induction rest generalizing first filled with
  | nil =>
    simp only [fillLast, bind_eq_ok, pure_eq_ok] at done
    obtain ⟨changed, lastDone, rfl⟩ := done
    exact ⟨[], first, changed, rfl, lastDone, rfl⟩
  | cons second rest inductionHypothesis =>
    simp only [fillLast, bind_eq_ok, pure_eq_ok] at done
    obtain ⟨others, othersDone, rfl⟩ := done
    obtain ⟨earlier, last, changed, parts, lastDone, rfl⟩ := inductionHypothesis othersDone
    exact ⟨first :: earlier, last, changed, by rw [parts, List.cons_append], lastDone, rfl⟩

theorem exists_cons_of_concat {α : Type} (earlier : List α) (last : α) :
    ∃ first rest, earlier ++ [last] = first :: rest :=
  List.exists_cons_of_ne_nil (List.append_ne_nil_of_right_ne_nil _ (List.cons_ne_nil _ _))

/-- The last set operation can be changed behind any others. -/
theorem fillLast_of_append {first last changed : SetOperation} {rest earlier : List SetOperation}
    (parts : first :: rest = earlier ++ [last])
    (lastDone : fillOperation order limit last = .ok changed) :
    fillLast order limit first rest = .ok (earlier ++ [changed]) := by
  induction earlier generalizing first rest with
  | nil =>
    cases parts
    rw [fillLast, lastDone]
    rfl
  | cons head earlier inductionHypothesis =>
    obtain ⟨second, others, listed⟩ := exists_cons_of_concat earlier last
    rw [List.cons_append, listed] at parts
    cases parts
    rw [fillLast, inductionHypothesis listed.symm]
    rfl

/-- A select with an order and a limit in their slots. They stand with the last set operation of a
body that is one, and with the select itself if there is none. -/
inductive FilledRows (order : Option (List Order)) (limit : Option Limit) (compound : Bool)
    (select : Select) : Select → Prop where
  | ofSelect {ownOrder : Option (List Order)} {ownLimit : Option Limit}
      (isAlone : compound = true → select.setOperations.getD [] = [])
      (orderIn : Receives select.order order ownOrder)
      (limitIn : Receives select.limit limit ownLimit) :
      FilledRows order limit compound select { select with order := ownOrder, limit := ownLimit }
  | ofLast {earlier : List SetOperation} {last : SetOperation}
      {resultOrder : Option (List Order)} {resultLimit : Option Limit}
      (isCompound : compound = true) (parts : select.setOperations = some (earlier ++ [last]))
      (orderIn : Receives last.resultOrder order resultOrder)
      (limitIn : Receives last.resultLimit limit resultLimit) :
      FilledRows order limit compound select
        { select with setOperations := some (earlier ++ [{ last with resultOrder, resultLimit }]) }

/-- An order and a limit are put into their slots just so. -/
theorem fillRows_eq_ok {compound : Bool} {select filled : Select} :
    fillRows compound order limit select = .ok filled ↔
      FilledRows order limit compound select filled := by
  constructor
  · intro done
    unfold fillRows at done
    split at done
    · rename_i first rest held
      simp only [bind_eq_ok, pure_eq_ok] at done
      obtain ⟨operations, lastDone, rfl⟩ := done
      obtain ⟨earlier, last, changed, parts, operationDone, rfl⟩ := fillLast_eq_ok lastDone
      obtain ⟨resultOrder, orderIn, resultLimit, limitIn, rfl⟩ :=
        fillOperation_eq_ok.mp operationDone
      exact .ofLast rfl (held.trans (congrArg some parts)) orderIn limitIn
    · rename_i other
      simp only [bind_eq_ok, pure_eq_ok, fill_eq_ok] at done
      obtain ⟨ownOrder, orderIn, ownLimit, limitIn, rfl⟩ := done
      refine .ofSelect (fun isCompound => ?_) orderIn limitIn
      cases held : select.setOperations with
      | none => rfl
      | some operations =>
        cases operations with
        | nil => rfl
        | cons first rest => exact (other first rest isCompound held).elim
  · rintro (⟨isAlone, orderIn, limitIn⟩ | ⟨rfl, parts, orderIn, limitIn⟩)
    · unfold fillRows
      split
      · rename_i first rest held
        rw [held] at isAlone
        cases isAlone rfl
      · simp only [bind_eq_ok, pure_eq_ok, fill_eq_ok]
        exact ⟨_, orderIn, _, limitIn, rfl⟩
    · rename_i earlier last resultOrder resultLimit
      obtain ⟨first, rest, listed⟩ := exists_cons_of_concat earlier last
      have lastDone := fillLast_of_append listed.symm
        (fillOperation_eq_ok.mpr ⟨resultOrder, orderIn, resultLimit, limitIn, rfl⟩)
      simp only [fillRows, parts, listed, bind_eq_ok, pure_eq_ok]
      exact ⟨_, lastDone, rfl⟩

end Rows

end SqlImage.Lowering
