import TableMigration.Proofs.Column.Conventions

/-!
# What the conventions change

The columns of a table one by one, where no field is declared twice. `foldConventions_eq` says which
columns are folded and into which method, which one is dropped, and that all others stay.
-/

namespace TableMigration.Column

/-- Both time stamps are among the columns, and declared as such. -/
def HasTimestampPair (columns : List Column) : Prop :=
  (∃ column ∈ columns, column.field = "created_at" ∧ column.method = "timestamp") ∧
    ∃ column ∈ columns, column.field = "updated_at" ∧ column.method = "timestamp"

instance (columns : List Column) : Decidable (HasTimestampPair columns) :=
  inferInstanceAs (Decidable (_ ∧ _))

/-- The method that a column is folded into among these columns, if it is folded. -/
def foldedMethod? (columns : List Column) (column : Column) : Option String :=
  if column.field = "deleted_at" ∧ column.method = "timestamp" then some "softDeletes"
  else if column.field = "created_at" ∧ HasTimestampPair columns then
    some (if column.nullable then "nullableTimestamps" else "timestamps")
  else if column.field = "remember_token" ∧ column.method = "string" ∧ column.nullable = true ∧
      column.args = .scalar "100" then
    some "rememberToken"
  else none

theorem hasMethod_iff {columns : List Column} {field method : String} :
    hasMethod columns field method = true ↔
      ∃ column ∈ columns, column.field = field ∧ column.method = method := by
  simp [hasMethod]

theorem isTokenColumn_iff {column : Column} :
    column.isTokenColumn = true ↔
      column.method = "string" ∧ column.nullable = true ∧ column.args = .scalar "100" := by
  simp [isTokenColumn, and_assoc]

theorem hasTimestampPair_foldSoftDeletes (columns : List Column) :
    HasTimestampPair (foldSoftDeletes columns) ↔ HasTimestampPair columns := by
  simp only [HasTimestampPair, ← hasMethod_iff]
  rw [hasMethod_foldSoftDeletes _ (by decide), hasMethod_foldSoftDeletes _ (by decide)]

/-! ### One convention at a time -/

section

variable {columns : List Column} (distinct : (columns.map (·.field)).Nodup)
include distinct

theorem foldSoftDeletes_eq_map :
    foldSoftDeletes columns = columns.map fun column =>
      if column.field = "deleted_at" then
        if column.method = "timestamp" then column.foldInto "softDeletes" else column
      else column :=
  Keyed.updateFirst_eq_map distinct

theorem foldRememberToken_eq_map :
    foldRememberToken columns = columns.map fun column =>
      if column.field = "remember_token" then
        if column.isTokenColumn then column.foldInto "rememberToken" else column
      else column :=
  Keyed.updateFirst_eq_map distinct

theorem foldTimestamps_eq_map :
    foldTimestamps columns =
      (columns.filter fun column =>
          ¬(column.field = "updated_at" ∧ HasTimestampPair columns)).map fun column =>
        if column.field = "created_at" ∧ HasTimestampPair columns then
          column.foldInto (if column.nullable then "nullableTimestamps" else "timestamps")
        else column := by
  by_cases pair : HasTimestampPair columns
  · have both : (hasMethod columns "created_at" "timestamp" &&
        hasMethod columns "updated_at" "timestamp") = true := by
      rw [Bool.and_eq_true, hasMethod_iff, hasMethod_iff]
      exact pair
    have kept : ((columns.filter (·.field != "updated_at")).map (·.field)).Nodup :=
      distinct.sublist (List.filter_sublist.map _)
    rw [foldTimestamps, if_pos both]
    simp only [pair, and_true]
    refine (Keyed.updateFirst_eq_map kept).trans (congrArg _ (List.filter_congr ?_))
    simp [bne, beq_eq_decide]
  · have single : ¬(hasMethod columns "created_at" "timestamp" &&
        hasMethod columns "updated_at" "timestamp") = true := by
      rw [Bool.and_eq_true, hasMethod_iff, hasMethod_iff]
      exact pair
    rw [foldTimestamps, if_neg single]
    simp [pair]

end

/-! ### All conventions -/

/-- The columns keep their order. Of a pair of time stamps the second is dropped; a column that is
folded keeps its field, its raw type, its sign and its comment; any other column is as it was. -/
theorem foldConventions_eq {columns : List Column} (distinct : (columns.map (·.field)).Nodup) :
    foldConventions columns =
      (columns.filter fun column =>
          ¬(column.field = "updated_at" ∧ HasTimestampPair columns)).map fun column =>
        match foldedMethod? columns column with
        | some method =>
          { field := column.field
            name := ""
            rawType := column.rawType
            method := method
            args := .none
            unsigned := column.unsigned
            nullable := false
            defaultValue := none
            comment := column.comment }
        | none => column := by
  have distinctSoft : ((foldSoftDeletes columns).map (·.field)).Nodup := by
    rwa [foldSoftDeletes_field]
  have distinctStamps : ((foldTimestamps (foldSoftDeletes columns)).map (·.field)).Nodup := by
    rw [foldTimestamps_field]
    split
    · exact distinctSoft.filter _
    · exact distinctSoft
  rw [foldConventions, foldRememberToken_eq_map distinctStamps, foldTimestamps_eq_map distinctSoft]
  simp only [hasTimestampPair_foldSoftDeletes]
  rw [foldSoftDeletes_eq_map distinct, List.filter_map, List.map_map, List.map_map]
  have kept : ∀ column : Column, (if column.field = "deleted_at" then
      if column.method = "timestamp" then column.foldInto "softDeletes" else column
      else column).field = column.field := by
    intro column
    split
    · exact field_foldInto_if
    · rfl
  simp only [Function.comp_def, kept]
  refine List.map_congr_left fun column _ => ?_
  -- The conditions are on different fields, so each column meets one of them at most.
  unfold foldedMethod?
  by_cases deleted : column.field = "deleted_at"
  · by_cases stamp : column.method = "timestamp" <;> simp [deleted, stamp, foldInto]
  by_cases created : column.field = "created_at"
  · by_cases pair : HasTimestampPair columns <;> simp [created, pair, foldInto]
  by_cases token : column.field = "remember_token"
  · by_cases fits : column.isTokenColumn = true
    · simp [token, fits, isTokenColumn_iff.mp fits, foldInto]
    · have unfit := mt isTokenColumn_iff.mpr fits
      simp [token, fits, unfit]
  · simp [deleted, created, token]

/-- A table with a pair of time stamps, a mark of deletion, and a token that is too short. -/
def accountColumns : List Column := [
  ⟨"deleted_at", "deleted_at", "timestamp", "timestamp", .none, none, true, none, "gone"⟩,
  ⟨"updated_at", "updated_at", "timestamp", "timestamp", .none, none, true, none, ""⟩,
  ⟨"remember_token", "remember_token", "varchar(60)", "string", .scalar "60", none, true, none, ""⟩,
  ⟨"created_at", "created_at", "timestamp(6)", "timestamp", .scalar "6", none, true, some "0", ""⟩]

theorem foldConventions_accountColumns :
    (accountColumns.map (·.field)).Nodup ∧
      foldConventions accountColumns = [
        ⟨"deleted_at", "", "timestamp", "softDeletes", .none, none, false, none, "gone"⟩,
        ⟨"remember_token", "remember_token", "varchar(60)", "string", .scalar "60", none, true, none,
          ""⟩,
        ⟨"created_at", "", "timestamp(6)", "nullableTimestamps", .none, none, false, none, ""⟩] := by
  have distinct : (accountColumns.map (·.field)).Nodup := by decide
  exact ⟨distinct, (foldConventions_eq distinct).trans (by decide)⟩

end TableMigration.Column
