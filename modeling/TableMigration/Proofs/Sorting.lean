import Mathlib.Data.List.Basic
import TableMigration.Command.Batch

/-!
# Sorting

Sorting puts the same elements in the same order, whatever order they come in (`sort_eq_of_perm`).
-/

namespace TableMigration

namespace Sorting

variable {α : Type}

/-- An order in which no two elements are on a par. -/
structure Strict (less : α → α → Bool) : Prop where
  asymm : ∀ {a b}, less a b = true → less b a = false
  trans : ∀ {a b c}, less b a = false → less c b = false → less c a = false
  eq : ∀ {a b}, less a b = false → less b a = false → a = b

variable {less : α → α → Bool} (strict : Strict less)
include strict

theorem insert_sorted (a : α) {l : List α} (h : l.Pairwise fun a b => less b a = false) :
    (insert less a l).Pairwise fun a b => less b a = false := by
  induction l with
  | nil => exact List.pairwise_singleton _ a
  | cons b l ih =>
    rw [List.pairwise_cons] at h
    rw [insert]
    split_ifs with first
    · refine .cons (fun c member => ?_) (ih h.2)
      rcases List.mem_cons.mp ((insert_perm less a l).mem_iff.mp member) with rfl | later
      · exact strict.asymm first
      · exact h.1 c later
    · have least : less b a = false := Bool.eq_false_iff.mpr first
      refine .cons (fun c member => ?_) (.cons h.1 h.2)
      rcases List.mem_cons.mp member with rfl | later
      · exact least
      · exact strict.trans least (h.1 c later)

theorem sort_sorted (l : List α) : (sort less l).Pairwise fun a b => less b a = false := by
  induction l with
  | nil => exact .nil
  | cons a l ih => exact insert_sorted strict a ih

theorem sort_eq_of_perm {l l' : List α} (h : l.Perm l') : sort less l = sort less l' :=
  (((sort_perm less l).trans h).trans (sort_perm less l').symm).eq_of_pairwise
    (fun _ _ _ _ first second => strict.eq second first) (sort_sorted strict l)
    (sort_sorted strict l')

end Sorting

namespace Command

theorem strict_text : Sorting.Strict fun a b : String => decide (a < b) where
  asymm h := by
    rw [decide_eq_true_iff] at h
    exact decide_eq_false (String.lt_asymm h)
  trans h h' := by
    rw [decide_eq_false_iff_not, String.not_lt] at h h' ⊢
    exact String.le_trans h h'
  eq h h' := by
    rw [decide_eq_false_iff_not, String.not_lt] at h h'
    exact String.le_antisymm h' h

theorem failureLess_eq_false {a b : String × String} :
    failureLess a b = false ↔ b.1 ≤ a.1 ∧ (a.1 = b.1 → b.2 ≤ a.2) := by
  rw [failureLess, Bool.or_eq_false_iff, Bool.and_eq_false_imp, decide_eq_false_iff_not,
    decide_eq_false_iff_not, String.not_lt, String.not_lt, beq_iff_eq]

theorem strict_failureLess : Sorting.Strict failureLess where
  asymm {a b} h := by
    rw [failureLess, Bool.or_eq_true, Bool.and_eq_true, decide_eq_true_iff, decide_eq_true_iff,
      beq_iff_eq] at h
    rw [failureLess_eq_false]
    rcases h with first | ⟨same, second⟩
    · exact ⟨String.not_lt.mp (String.lt_asymm first), fun same =>
        absurd (same ▸ first) (String.lt_irrefl _)⟩
    · exact ⟨same ▸ String.le_refl _, fun _ => String.not_lt.mp (String.lt_asymm second)⟩
  trans {a b c} h h' := by
    rw [failureLess_eq_false] at h h' ⊢
    refine ⟨String.le_trans h.1 h'.1, fun same => ?_⟩
    have middle : b.1 = a.1 := String.le_antisymm (same ▸ h'.1) h.1
    exact String.le_trans (h.2 middle) (h'.2 (same.trans middle.symm))
  eq h h' := by
    rw [failureLess_eq_false] at h h'
    have first := String.le_antisymm h'.1 h.1
    exact Prod.ext first (String.le_antisymm (h'.2 first.symm) (h.2 first))

/-- The order in which the results come in does not show in the report. -/
theorem ofResults_eq_of_perm {results results' : List TableResult} (h : results.Perm results') :
    Report.ofResults results = .ofResults results' := by
  rw [Report.ofResults, Report.ofResults, Sorting.sort_eq_of_perm strict_text (h.filterMap _),
    Sorting.sort_eq_of_perm strict_failureLess (h.filterMap _)]

end Command

end TableMigration
