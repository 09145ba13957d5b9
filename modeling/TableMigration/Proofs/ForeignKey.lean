import TableMigration.ForeignKey
import TableMigration.Proofs.Keyed

/-!
# Foreign keys and the indexes beside them

What the rows of foreign keys make and what they leave of the indexes. `takeRows_exact` says both,
also for rows that are taken one at a time, in portions, in another order or twice.
-/

namespace TableMigration.ForeignKey

/-- Takes one row in: its foreign key comes to its place, and the indexes of its name go. -/
def takeRow (taken : List ForeignKey × List Index) (row : Dump.ForeignKeyRow) :
    List ForeignKey × List Index :=
  (Keyed.put name (ofRow row) taken.1, taken.2.filter (·.name ≠ row.name))

/-- Takes rows in one after another, beside the indexes that there are. -/
def takeRows (rows : List Dump.ForeignKeyRow) (indexes : List Index) :
    List ForeignKey × List Index :=
  rows.foldl takeRow ([], indexes)

/-! ### Foreign keys -/

theorem map_name_listOfRows (rows : List Dump.ForeignKeyRow) :
    (listOfRows rows).map (·.name) = (rows.map (·.name)).eraseDups := by
  rw [listOfRows, Keyed.map_key_ofList, List.map_map]
  rfl

theorem listOfRows_concat (rows : List Dump.ForeignKeyRow) (row : Dump.ForeignKeyRow) :
    listOfRows (rows ++ [row]) = Keyed.put name (ofRow row) (listOfRows rows) := by
  rw [listOfRows, List.map_append, List.map_singleton, Keyed.ofList_concat]
  rfl

/-! ### Indexes beside foreign keys -/

theorem indexesBeside_eq (rows : List Dump.ForeignKeyRow) (indexes : List Index) :
    indexesBeside rows indexes = indexes.filter (·.name ∉ rows.map (·.name)) := by
  refine List.filter_congr fun index _ => ?_
  have named : rows.any (·.name == index.name) = decide (index.name ∈ rows.map (·.name)) := by
    rw [Bool.eq_iff_iff, List.any_eq_true, decide_eq_true_eq, List.mem_map]
    simp
  rw [named, decide_not]

theorem map_name_indexesBeside (rows : List Dump.ForeignKeyRow) (indexes : List Index) :
    (indexesBeside rows indexes).map (·.name) =
      (indexes.map (·.name)).filter (· ∉ rows.map (·.name)) := by
  rw [indexesBeside_eq, List.filter_map]
  rfl

theorem indexesBeside_append (rows later : List Dump.ForeignKeyRow) (indexes : List Index) :
    indexesBeside later (indexesBeside rows indexes) = indexesBeside (rows ++ later) indexes := by
  simp only [indexesBeside, List.filter_filter, List.any_append, Bool.not_or, Bool.and_comm]

theorem indexesBeside_perm {rows rows' : List Dump.ForeignKeyRow} (same : rows.Perm rows')
    (indexes : List Index) : indexesBeside rows' indexes = indexesBeside rows indexes := by
  rw [indexesBeside_eq, indexesBeside_eq]
  simp only [(same.map _).mem_iff]

theorem indexesBeside_indexesBeside (rows : List Dump.ForeignKeyRow) (indexes : List Index) :
    indexesBeside rows (indexesBeside rows indexes) = indexesBeside rows indexes := by
  rw [indexesBeside_eq, indexesBeside_eq, List.filter_filter]
  simp only [Bool.and_self]

/-! ### One row after another -/

theorem takeRow_rows (rows : List Dump.ForeignKeyRow) (row : Dump.ForeignKeyRow)
    (indexes : List Index) :
    takeRow (listOfRows rows, indexesBeside rows indexes) row =
      (listOfRows (rows ++ [row]), indexesBeside (rows ++ [row]) indexes) := by
  rw [takeRow, listOfRows_concat, ← indexesBeside_append rows [row], indexesBeside_eq [row]]
  simp

/-- Each row drops the indexes of its name, also when an earlier row has done so already; in the end
only indexes of no row are left. -/
theorem takeRows_eq (rows : List Dump.ForeignKeyRow) (indexes : List Index) :
    takeRows rows indexes = (listOfRows rows, indexesBeside rows indexes) := by
  induction rows using List.reverseRecOn with
  | nil => simp [takeRows, listOfRows, Keyed.ofList, indexesBeside]
  | append_singleton rows row ih =>
    rw [← takeRow_rows, ← ih, takeRows, takeRows, List.foldl_append]
    rfl

/-- Each name of the rows has one foreign key, in order of first mention, with the fields of its
last row, and the indexes of all other names stay as they are. -/
theorem takeRows_exact (rows : List Dump.ForeignKeyRow) (indexes : List Index) :
    takeRows rows indexes = (listOfRows rows, indexesBeside rows indexes) ∧
      (listOfRows rows).map (·.name) = (rows.map (·.name)).eraseDups ∧
      listOfRows rows =
        ((rows.map (·.name)).eraseDups.filterMap fun name =>
          (Keyed.last? (·.name) name rows).map fun row =>
            { name := row.name
              localColumn := row.column
              referencedTable := row.referencedTable
              referencedColumn := row.referencedColumn
              onUpdate := row.updateRule
              onDelete := row.deleteRule }) ∧
      indexesBeside rows indexes = indexes.filter (·.name ∉ rows.map (·.name)) ∧
      (∀ later, indexesBeside later (indexesBeside rows indexes) =
        indexesBeside (rows ++ later) indexes) ∧
      (∀ rows', rows.Perm rows' → indexesBeside rows' indexes = indexesBeside rows indexes) ∧
      takeRows rows (indexesBeside rows indexes) = takeRows rows indexes := by
  refine ⟨takeRows_eq rows indexes, map_name_listOfRows rows, Keyed.ofList_map name ofRow rows,
    indexesBeside_eq rows indexes, fun later => indexesBeside_append rows later indexes,
    fun rows' same => indexesBeside_perm same indexes, ?_⟩
  rw [takeRows_eq, takeRows_eq, indexesBeside_indexesBeside]

theorem takeRows_exact_posts :
    let row := fun name table =>
      Dump.ForeignKeyRow.mk name "author_id" table "id" "CASCADE" "CASCADE"
    let rows := [row "author" "people", row "editor" "users", row "author" "users"]
    let rows' := [row "author" "users", row "author" "people", row "editor" "users"]
    let indexes := [⟨"slug", true, ["slug"]⟩, ⟨"author", false, ["author_id"]⟩,
      ⟨"slug", false, ["slug"]⟩, ⟨"editor", false, ["author_id"]⟩]
    rows.Perm rows' ∧ indexesBeside rows' indexes = indexesBeside rows indexes ∧
      takeRows rows indexes =
        ([⟨"author", "author_id", "users", "id", "CASCADE", "CASCADE"⟩,
          ⟨"editor", "author_id", "users", "id", "CASCADE", "CASCADE"⟩],
        [⟨"slug", true, ["slug"]⟩, ⟨"slug", false, ["slug"]⟩]) := by
  intro row rows rows' indexes
  obtain ⟨taken, -, -, -, -, reordered, -⟩ := takeRows_exact rows indexes
  have same : rows.Perm rows' := by decide
  exact ⟨same, reordered rows' same, taken.trans (by decide)⟩

end TableMigration.ForeignKey
