import TableMigration.Proofs.Column.Conventions

/-!
# The order of the conventions

The conventions of a table with any columns, also ones that share a field or have been folded before.
`order_irrelevant` says that their order does not matter, nor how often they are applied.
-/

namespace TableMigration

inductive Convention where
  | softDeletes
  | timestamps
  | rememberToken
deriving DecidableEq, Repr

namespace Convention

open Column (foldConventions foldRememberToken foldSoftDeletes foldTimestamps hasMethod)

def apply : Convention → List Column → List Column
  | softDeletes => foldSoftDeletes
  | timestamps => foldTimestamps
  | rememberToken => foldRememberToken

def applyAll (conventions : List Convention) (columns : List Column) : List Column :=
  conventions.foldl (fun columns convention => convention.apply columns) columns

/-! ### Two conventions -/

section

variable {k : String} {change : Column → Column}

theorem foldTimestamps_updateFirst (created : k ≠ "created_at") (updated : k ≠ "updated_at")
    (keeps : ∀ column, (change column).field = column.field) (columns : List Column) :
    foldTimestamps (Keyed.updateFirst Column.field k change columns) =
      Keyed.updateFirst Column.field k change (foldTimestamps columns) := by
  unfold foldTimestamps
  rw [Column.hasMethod_updateFirst created keeps, Column.hasMethod_updateFirst updated keeps]
  split
  · have other : ∀ column : Column, column.field = k →
        (column.field != "updated_at") = true ∧ ((change column).field != "updated_at") = true := by
      intro column here
      simp [keeps, here, updated]
    rw [← Keyed.updateFirst_filter (fun column here => (other column here).1)
      (fun column here => (other column here).2)]
    exact Keyed.updateFirst_comm created.symm (fun column => Column.foldInto_field _ column) keeps _
  · rfl

end

theorem apply_comm (first second : Convention) (columns : List Column) :
    first.apply (second.apply columns) = second.apply (first.apply columns) := by
  have soft : ∀ columns, foldTimestamps (foldSoftDeletes columns) =
      foldSoftDeletes (foldTimestamps columns) :=
    foldTimestamps_updateFirst (by decide) (by decide) fun _ => Column.field_foldInto_if
  have token : ∀ columns, foldTimestamps (foldRememberToken columns) =
      foldRememberToken (foldTimestamps columns) :=
    foldTimestamps_updateFirst (by decide) (by decide) fun _ => Column.field_foldInto_if
  have both : ∀ columns, foldSoftDeletes (foldRememberToken columns) =
      foldRememberToken (foldSoftDeletes columns) :=
    Keyed.updateFirst_comm (by decide) (fun _ => Column.field_foldInto_if)
      fun _ => Column.field_foldInto_if
  cases first <;> cases second <;> simp only [apply, soft, token, both]

/-! ### One convention twice -/

theorem foldTimestamps_foldTimestamps (columns : List Column) :
    foldTimestamps (foldTimestamps columns) = foldTimestamps columns := by
  by_cases pair : (hasMethod columns "created_at" "timestamp" &&
      hasMethod columns "updated_at" "timestamp") = true
  · -- No column of the second field is left, so there is no pair any more.
    have none : hasMethod (columns.filter (·.field != "updated_at")) "updated_at" "timestamp" =
        false := by
      rw [hasMethod, List.any_eq_false]
      intro column member
      have other : column.field ≠ "updated_at" := by simpa using (List.mem_filter.mp member).2
      simp [other]
    have single : hasMethod (foldTimestamps columns) "updated_at" "timestamp" = false := by
      rw [foldTimestamps, if_pos pair]
      exact (Column.hasMethod_updateFirst (by decide)
        (fun column => Column.foldInto_field _ column) _ _).trans none
    rw [foldTimestamps, single, Bool.and_false, if_neg (by decide)]
  · have unchanged : foldTimestamps columns = columns := by rw [foldTimestamps, if_neg pair]
    rw [unchanged, unchanged]

theorem foldInto_if_again (fits : Column → Bool) {method : String}
    (folded : ∀ column : Column, fits (column.foldInto method) = false) (column : Column) :
    (if fits (if fits column then column.foldInto method else column) then
        (if fits column then column.foldInto method else column).foldInto method
      else if fits column then column.foldInto method else column) =
      if fits column then column.foldInto method else column := by
  by_cases fit : fits column = true
  · simp [fit, folded]
  · simp [fit]

theorem apply_apply (convention : Convention) (columns : List Column) :
    convention.apply (convention.apply columns) = convention.apply columns := by
  cases convention with
  | softDeletes =>
    refine Keyed.updateFirst_updateFirst (fun _ => Column.field_foldInto_if) (fun column => ?_) columns
    have folded : ∀ column : Column,
        decide ((column.foldInto "softDeletes").method = "timestamp") = false := by
      simp [Column.foldInto]
    simpa using foldInto_if_again (fun column => column.method = "timestamp") folded column
  | timestamps => exact foldTimestamps_foldTimestamps columns
  | rememberToken =>
    refine Keyed.updateFirst_updateFirst (fun _ => Column.field_foldInto_if) (fun column => ?_) columns
    have folded : ∀ column : Column, (column.foldInto "rememberToken").isTokenColumn = false :=
      fun _ => rfl
    exact foldInto_if_again Column.isTokenColumn folded column

/-! ### Any order -/

theorem applyAll_eq_of_perm {conventions others : List Convention} (same : conventions.Perm others)
    (columns : List Column) : applyAll conventions columns = applyAll others columns :=
  same.foldl_eq' (fun first _ second _ columns => apply_comm second first columns) columns

/-- The three conventions give the same columns in any order, and neither one of them alone nor all
together change anything when applied again. -/
theorem order_irrelevant (columns : List Column) :
    (∀ order : List Convention, order.Perm [softDeletes, timestamps, rememberToken] →
        applyAll order columns = foldConventions columns) ∧
      (∀ convention : Convention,
        convention.apply (convention.apply columns) = convention.apply columns) ∧
      foldConventions (foldConventions columns) = foldConventions columns := by
  -- Applied twice over, the conventions can be brought into pairs.
  have twice : [softDeletes, timestamps, rememberToken, softDeletes, timestamps, rememberToken].Perm
      [softDeletes, softDeletes, timestamps, timestamps, rememberToken, rememberToken] := by decide
  refine ⟨fun order same => applyAll_eq_of_perm same columns,
    fun convention => apply_apply convention columns, ?_⟩
  calc foldConventions (foldConventions columns)
      = applyAll [softDeletes, softDeletes, timestamps, timestamps, rememberToken, rememberToken]
          columns := applyAll_eq_of_perm twice columns
    _ = applyAll [softDeletes, timestamps, rememberToken] columns := by
        simp only [applyAll, List.foldl_cons, apply_apply]
    _ = foldConventions columns := rfl

/-- A table in which fields are repeated, and one column has been folded before. -/
def repeatedColumns : List Column := [
  ⟨"created_at", "", "timestamp", "timestamps", .none, none, false, none, ""⟩,
  ⟨"updated_at", "updated_at", "timestamp", "timestamp", .none, none, true, none, ""⟩,
  ⟨"created_at", "created_at", "timestamp", "timestamp", .none, none, true, none, ""⟩,
  ⟨"updated_at", "updated_at", "int(11)", "integer", .none, none, true, none, ""⟩,
  ⟨"deleted_at", "deleted_at", "timestamp", "timestamp", .none, none, true, none, ""⟩,
  ⟨"deleted_at", "deleted_at", "timestamp", "timestamp", .none, none, true, none, ""⟩]

theorem order_irrelevant_repeatedColumns :
    [rememberToken, timestamps, softDeletes].Perm [softDeletes, timestamps, rememberToken] ∧
      applyAll [rememberToken, timestamps, softDeletes] repeatedColumns =
        foldConventions repeatedColumns ∧
      foldConventions repeatedColumns = [
        ⟨"created_at", "", "timestamp", "timestamps", .none, none, false, none, ""⟩,
        ⟨"created_at", "created_at", "timestamp", "timestamp", .none, none, true, none, ""⟩,
        ⟨"deleted_at", "", "timestamp", "softDeletes", .none, none, false, none, ""⟩,
        ⟨"deleted_at", "deleted_at", "timestamp", "timestamp", .none, none, true, none, ""⟩] := by
  have same : [rememberToken, timestamps, softDeletes].Perm
      [softDeletes, timestamps, rememberToken] := by decide
  exact ⟨same, (order_irrelevant repeatedColumns).1 _ same, by decide⟩

end Convention

end TableMigration
