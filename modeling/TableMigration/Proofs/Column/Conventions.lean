import TableMigration.Column.Convention
import TableMigration.Proofs.Keyed

/-!
# Fields after the conventions

Which columns the conventions leave. `map_field_listOfRows` says that each field of the rows has
one column, except that a pair of time stamps is declared by the first of the two.
-/

namespace TableMigration.Column

/-! ### Conventions of one column -/

theorem foldInto_field (method : String) (column : Column) :
    (column.foldInto method).field = column.field :=
  rfl

theorem field_foldInto_if {p : Prop} [Decidable p] {method : String} {column : Column} :
    (if p then column.foldInto method else column).field = column.field := by
  split
  · exact foldInto_field method column
  · rfl

theorem foldSoftDeletes_field (columns : List Column) :
    (foldSoftDeletes columns).map (·.field) = columns.map (·.field) :=
  Keyed.map_key_updateFirst (fun _ => field_foldInto_if) columns

theorem foldRememberToken_field (columns : List Column) :
    (foldRememberToken columns).map (·.field) = columns.map (·.field) :=
  Keyed.map_key_updateFirst (fun _ => field_foldInto_if) columns

theorem hasMethod_filter (columns : List Column) (field method : String) :
    hasMethod columns field method =
      (columns.filter (·.field = field)).any (·.method == method) := by
  rw [hasMethod, List.any_filter]
  rfl

theorem hasMethod_updateFirst {k field : String} (other : k ≠ field) {change : Column → Column}
    (keeps : ∀ column, (change column).field = column.field) (columns : List Column)
    (method : String) :
    hasMethod (Keyed.updateFirst Column.field k change columns) field method =
      hasMethod columns field method := by
  rw [hasMethod_filter, hasMethod_filter, Keyed.filter_updateFirst_other other keeps]

theorem hasMethod_foldSoftDeletes (columns : List Column) {field : String}
    (other : "deleted_at" ≠ field) (method : String) :
    hasMethod (foldSoftDeletes columns) field method = hasMethod columns field method :=
  hasMethod_updateFirst other (fun _ => field_foldInto_if) columns method

/-! ### The pair of time stamps -/

theorem foldTimestamps_field (columns : List Column) :
    (foldTimestamps columns).map (·.field) =
      if hasMethod columns "created_at" "timestamp" ∧
          hasMethod columns "updated_at" "timestamp" then
        (columns.map (·.field)).filter (· ≠ "updated_at")
      else columns.map (·.field) := by
  rw [foldTimestamps]
  by_cases both : hasMethod columns "created_at" "timestamp" ∧
      hasMethod columns "updated_at" "timestamp"
  · rw [if_pos both, if_pos (by simpa using both)]
    rw [Keyed.map_key_updateFirst fun column => foldInto_field _ column, List.filter_map]
    refine congrArg _ (List.filter_congr fun column _ => ?_)
    simp [bne, beq_eq_decide]
  · rw [if_neg both, if_neg (by simpa using both)]

/-- The method that the last row of a field resolves to. -/
def lastMethod? (field : String) (rows : List Dump.ColumnRow) : Option String :=
  (Keyed.last? (·.field) field rows).map fun row => (ResolvedType.ofText row.type row.extra).method

/-- The last rows of `created_at` and `updated_at` are both time stamps. -/
def PairsTimestamps (rows : List Dump.ColumnRow) : Prop :=
  lastMethod? "created_at" rows = some "timestamp" ∧
    lastMethod? "updated_at" rows = some "timestamp"

instance (rows : List Dump.ColumnRow) : Decidable (PairsTimestamps rows) :=
  inferInstanceAs (Decidable (_ ∧ _))

theorem hasMethod_ofRows {rows : List Dump.ColumnRow} {field method : String} :
    hasMethod (Keyed.ofList Column.field (rows.map ofRow)) field method = true ↔
      lastMethod? field rows = some method := by
  have last : lastMethod? field rows =
      (Keyed.last? Column.field field (rows.map ofRow)).map (·.method) := by
    rw [Keyed.last?_map, Option.map_map]
    rfl
  rw [last, hasMethod, List.any_eq_true, Option.map_eq_some_iff]
  constructor
  · rintro ⟨column, member, same⟩
    obtain ⟨here, declared⟩ : column.field = field ∧ column.method = method := by simpa using same
    exact ⟨column, here ▸ (Keyed.mem_ofList Column.field).mp member, declared⟩
  · rintro ⟨column, found, declared⟩
    have here := (Keyed.last?_eq_some Column.field found).2
    have kept := (Keyed.mem_ofList Column.field).mpr (here.symm ▸ found)
    exact ⟨column, kept, by simp [here, declared]⟩

/-- Each field has one column, in order of first mention; `updated_at` has none exactly if it is
one of a pair of time stamps. -/
theorem map_field_listOfRows (rows : List Dump.ColumnRow) :
    (listOfRows rows).map (·.field) =
      (rows.map (·.field)).eraseDups.filter fun field =>
        ¬(field = "updated_at" ∧ PairsTimestamps rows) := by
  have fields : (Keyed.ofList Column.field (rows.map ofRow)).map (·.field) =
      (rows.map (·.field)).eraseDups := by
    rw [Keyed.map_key_ofList, List.map_map]
    rfl
  -- Soft deletion comes first, but leaves the methods of the pair as the rows give them.
  rw [listOfRows, foldConventions, foldRememberToken_field, foldTimestamps_field,
    hasMethod_foldSoftDeletes _ (by decide), hasMethod_foldSoftDeletes _ (by decide),
    foldSoftDeletes_field, fields]
  by_cases pair : PairsTimestamps rows
  · rw [if_pos ⟨hasMethod_ofRows.mpr pair.1, hasMethod_ofRows.mpr pair.2⟩]
    simp only [pair, and_true]
  · rw [if_neg fun both => pair ⟨hasMethod_ofRows.mp both.1, hasMethod_ofRows.mp both.2⟩]
    simp [pair]

theorem nodup_field_listOfRows (rows : List Dump.ColumnRow) :
    ((listOfRows rows).map (·.field)).Nodup := by
  rw [map_field_listOfRows]
  exact (Keyed.nodup_eraseDups _).filter _

/-! ### Columns after the conventions -/

def conventionMethods : List String :=
  ["softDeletes", "timestamps", "nullableTimestamps", "rememberToken"]

theorem forall_updateFirst {p : Column → Prop} {columns : List Column} {k : String}
    {change : Column → Column} (keeps : ∀ column, p column → p (change column))
    (h : ∀ column ∈ columns, p column) :
    ∀ column ∈ Keyed.updateFirst field k change columns, p column := by
  intro column member
  rcases Keyed.mem_updateFirst member with old | ⟨before, old, rfl⟩
  · exact h column old
  · exact keeps before (h before old)

theorem forall_foldConventions {p : Column → Prop} {columns : List Column}
    (folds : ∀ column, p column → ∀ method ∈ conventionMethods, p (column.foldInto method))
    (h : ∀ column ∈ columns, p column) : ∀ column ∈ foldConventions columns, p column := by
  have softDeletes : ∀ column ∈ foldSoftDeletes columns, p column := by
    refine forall_updateFirst (fun column holds => ?_) h
    split
    · exact folds column holds "softDeletes" (by decide)
    · exact holds
  have timestamps : ∀ column ∈ foldTimestamps (foldSoftDeletes columns), p column := by
    rw [foldTimestamps]
    split
    · refine forall_updateFirst (fun column holds => folds column holds _ ?_) fun column member =>
        softDeletes column (List.mem_filter.mp member).1
      split <;> decide
    · exact softDeletes
  refine forall_updateFirst (fun column holds => ?_) timestamps
  split
  · exact folds column holds "rememberToken" (by decide)
  · exact holds

/-- Every column is the one that the last row of its field declares, as it is or folded. -/
theorem exists_last?_listOfRows (rows : List Dump.ColumnRow) :
    ∀ column ∈ listOfRows rows, ∃ row,
      Keyed.last? Dump.ColumnRow.field column.field rows = some row ∧
        (column = ofRow row ∨
          ∃ method ∈ conventionMethods, column = (ofRow row).foldInto method) := by
  refine forall_foldConventions ?_ ?_
  · rintro _ ⟨row, last, rfl | ⟨_, -, rfl⟩⟩ method convention <;>
      exact ⟨row, last, .inr ⟨method, convention, rfl⟩⟩
  · intro column member
    have last := (Keyed.mem_ofList field).mp member
    rw [Keyed.last?_map] at last
    obtain ⟨row, last, same⟩ := Option.map_eq_some_iff.mp last
    exact ⟨row, last, .inl same.symm⟩

end TableMigration.Column
