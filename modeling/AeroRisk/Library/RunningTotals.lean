import Mathlib.Algebra.Group.Defs
import Mathlib.Data.List.Basic

/-!
# Records with a running total

Every record of a list has an effect and carries a total.  The totals chain
when each one is the total before it plus the effect of its own record.
-/

namespace AeroRisk.Library.RunningTotals

universe u v

variable {Record : Type u} {Money : Type v}

/-- The total of the last record, or the opening one when there is none. -/
def closing (total : Record → Money) (opening : Money)
    (records : List Record) : Money :=
  records.getLast?.elim opening total

/-- Each total is the one before it plus the effect of its record. -/
def Chained [Add Money] (effect total : Record → Money) :
    Money → List Record → Prop
  | _, [] => True
  | opening, record :: rest =>
      total record = opening + effect record ∧
        Chained effect total (total record) rest

section Closing

variable (total : Record → Money) (opening : Money)

@[simp]
theorem closing_nil : closing total opening [] = opening :=
  rfl

@[simp]
theorem closing_cons (record : Record) (rest : List Record) :
    closing total opening (record :: rest) =
      closing total (total record) rest := by
  rw [closing, closing, List.getLast?_cons]
  cases rest.getLast? <;> rfl

@[simp]
theorem closing_append (first second : List Record) :
    closing total opening (first ++ second) =
      closing total (closing total opening first) second := by
  induction first generalizing opening with
  | nil => rfl
  | cons record rest inductionHypothesis =>
      rw [List.cons_append, closing_cons, closing_cons, inductionHypothesis]

end Closing

section Chains

variable [Add Money] {effect total : Record → Money} {opening : Money}

@[simp]
theorem chained_nil : Chained effect total opening [] :=
  trivial

@[simp]
theorem chained_cons (record : Record) (rest : List Record) :
    Chained effect total opening (record :: rest) ↔
      total record = opening + effect record ∧
        Chained effect total (total record) rest :=
  Iff.rfl

/-- A second list chains from the closing total of the first one. -/
@[simp]
theorem chained_append (first second : List Record) :
    Chained effect total opening (first ++ second) ↔
      Chained effect total opening first ∧
        Chained effect total (closing total opening first) second := by
  induction first generalizing opening with
  | nil => simp
  | cons record rest inductionHypothesis =>
      rw [List.cons_append, chained_cons, chained_cons, inductionHypothesis,
        closing_cons, and_assoc]

end Chains

end AeroRisk.Library.RunningTotals
