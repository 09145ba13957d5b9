import TableMigration.Proofs.Session.Inventory

/-!
# Sessions on one line

Whatever has been loaded, no text of a session has a line feed, since a dump is cut into lines first
(`oneLine_run`). So every statement stands on one line of its block.
-/

namespace TableMigration.Session

/-- The texts of the columns, indexes and foreign keys have no line feed. -/
structure OneLine (session : Session) : Prop where
  columns : ∀ column ∈ session.columns, column.OneLine
  indexes : ∀ index ∈ session.indexes, index.OneLine
  foreignKeys : ∀ key ∈ session.foreignKeys, key.OneLine

theorem oneLine_start (table : String) : (start table).OneLine := by
  constructor <;> simp [start]

theorem oneLine_step {session : Session} (h : session.OneLine) (load : Load) :
    (session.step load).OneLine := by
  cases load with
  | columns dump =>
    rw [step, Load.perform_columns]
    split
    · rename_i rows read
      exact ⟨Column.oneLine_listOfRows (Dump.oneLine_of_readColumnRows read), h.indexes,
        h.foreignKeys⟩
    · exact h
  | indexes dump =>
    rw [step, Load.perform_indexes]
    split
    · rename_i rows read
      exact ⟨h.columns, Index.oneLine_listOfRows (Dump.oneLine_of_readIndexRows read) _,
        h.foreignKeys⟩
    · exact h
  | foreignKeys dump =>
    rw [step, Load.perform_foreignKeys]
    split
    · rename_i rows read
      refine ⟨h.columns, fun index member => h.indexes index (List.mem_filter.mp member).1, ?_⟩
      exact ForeignKey.oneLine_listOfRows (Dump.oneLine_of_readForeignKeyRows read)
    · exact h

theorem oneLine_run {session : Session} (h : session.OneLine) (loads : List Load) :
    (session.run loads).OneLine := by
  induction loads using List.reverseRecOn with
  | nil => exact h
  | append_singleton loads load ih =>
    rw [run_concat]
    exact oneLine_step ih load

end TableMigration.Session
