import Mathlib.Data.List.Induction
import TableMigration.Session

/-!
# Histories of sessions

What a session holds after any loads, in any order, some of which fail. `run_eq_ofHistory` says that
only the last dump of each kind that could be read counts, and for the indexes also the columns at
the time and the foreign keys since.
-/

namespace TableMigration

namespace Load

/-- A load that fails has changed nothing. -/
theorem eq_of_perform_error {load : Load} {session after : Session} {fault : Dump.MalformedRow}
    (h : load.perform session = (.error fault, after)) : after = session := by
  cases load with
  | columns dump =>
    rw [perform_columns] at h
    split at h <;> cases h
    rfl
  | indexes dump =>
    rw [perform_indexes] at h
    split at h <;> cases h
    rfl
  | foreignKeys dump =>
    rw [perform_foreignKeys] at h
    split at h <;> cases h
    rfl

/-- The rows of columns that the load reads, if it reads any. -/
def columnRows? : Load → Option (List Dump.ColumnRow)
  | columns dump => (Dump.readColumnRows dump).toOption
  | _ => none

def indexRows? : Load → Option (List Dump.IndexRow)
  | indexes dump => (Dump.readIndexRows dump).toOption
  | _ => none

def foreignKeyRows? : Load → Option (List Dump.ForeignKeyRow)
  | foreignKeys dump => (Dump.readForeignKeyRows dump).toOption
  | _ => none

end Load

/-! ### The last load of a kind -/

section

variable {ρ : Type} (rows? : Load → Option ρ)

/-- The rows of the last load that has any, with the loads before it and after it. -/
def lastLoad? : List Load → Option (List Load × ρ × List Load)
  | [] => none
  | load :: later =>
    match lastLoad? later with
    | some (before, rows, after) => some (load :: before, rows, after)
    | none => (rows? load).map fun rows => ([], rows, later)

theorem lastLoad?_eq_none_iff {loads : List Load} :
    lastLoad? rows? loads = none ↔ ∀ load ∈ loads, rows? load = none := by
  induction loads with
  | nil => simp [lastLoad?]
  | cons load later ih =>
    rw [lastLoad?, List.forall_mem_cons, ← ih]
    cases lastLoad? rows? later <;> simp

theorem lastLoad?_eq_some_iff {loads before after : List Load} {rows : ρ} :
    lastLoad? rows? loads = some (before, rows, after) ↔
      ∃ load, loads = before ++ load :: after ∧ rows? load = some rows ∧
        ∀ load ∈ after, rows? load = none := by
  induction loads generalizing before with
  | nil => simp [lastLoad?]
  | cons first later ih =>
    rw [lastLoad?]
    constructor
    · intro h
      -- A later load of the kind wins over this one.
      cases found : lastLoad? rows? later with
      | some parts =>
        obtain ⟨earlier, found', rest⟩ := parts
        rw [found] at h
        simp only [Option.some.injEq, Prod.mk.injEq] at h
        obtain ⟨rfl, rfl, rfl⟩ := h
        obtain ⟨load, split, read, none⟩ := ih.mp found
        exact ⟨load, congrArg (first :: ·) split, read, none⟩
      | none =>
        rw [found] at h
        obtain ⟨rows', read, same⟩ := Option.map_eq_some_iff.mp h
        simp only [Prod.mk.injEq] at same
        obtain ⟨rfl, rfl, rfl⟩ := same
        exact ⟨first, rfl, read, (lastLoad?_eq_none_iff rows?).mp found⟩
    · rintro ⟨load, split, read, none⟩
      cases before with
      | nil =>
        obtain ⟨rfl, rfl⟩ := List.cons.inj split
        rw [(lastLoad?_eq_none_iff rows?).mpr none, read]
        rfl
      | cons earlier before =>
        obtain ⟨rfl, tails⟩ := List.cons.inj split
        rw [ih.mpr ⟨load, tails, read, none⟩]

theorem lastLoad?_concat (loads : List Load) (load : Load) :
    lastLoad? rows? (loads ++ [load]) =
      match rows? load with
      | some rows => some (loads, rows, [])
      | none => (lastLoad? rows? loads).map fun (before, rows, after) =>
          (before, rows, after ++ [load]) := by
  induction loads with
  | nil => cases h : rows? load <;> simp [lastLoad?, h]
  | cons first later ih =>
    rw [List.cons_append, lastLoad?, ih, lastLoad?]
    cases h : rows? load with
    | some rows => simp
    | none => cases lastLoad? rows? later <;> cases rows? first <;> simp

end

namespace Session

/-- The session after a load, whatever the load comes to. -/
def step (session : Session) (load : Load) : Session :=
  (load.perform session).2

/-- The session after loads, one after another. -/
def run (session : Session) (loads : List Load) : Session :=
  loads.foldl step session

/-- The columns after a history: those of its last dump of columns. -/
def columnsOf (loads : List Load) : List Column :=
  match lastLoad? Load.columnRows? loads with
  | some (_, rows, _) => Column.listOfRows rows
  | none => []

/-- A dump of foreign keys among the loads names the index. -/
def namedByForeignKey (loads : List Load) (index : Index) : Bool :=
  loads.any fun load => load.foreignKeyRows?.any fun rows => rows.any (·.name == index.name)

/-- The indexes after a history: those of its last dump of indexes beside the columns of that time,
without the names in any dump of foreign keys since. -/
def indexesOf (loads : List Load) : List Index :=
  match lastLoad? Load.indexRows? loads with
  | some (before, rows, after) =>
    (Index.listOfRows rows (columnsOf before)).filter (!namedByForeignKey after ·)
  | none => []

/-- The foreign keys after a history: those of its last dump of foreign keys. -/
def foreignKeysOf (loads : List Load) : List ForeignKey :=
  match lastLoad? Load.foreignKeyRows? loads with
  | some (_, rows, _) => ForeignKey.listOfRows rows
  | none => []

/-- The session of a table after a history. -/
def ofHistory (table : String) (loads : List Load) : Session where
  table := table
  columns := columnsOf loads
  indexes := indexesOf loads
  foreignKeys := foreignKeysOf loads

/-! ### One load -/

/-- What a load changes: the part of its kind, when its dump can be read, and the indexes also when
foreign keys stand for some of them. -/
theorem step_eq (session : Session) (load : Load) :
    session.step load =
      { table := session.table
        columns := (load.columnRows?.map Column.listOfRows).getD session.columns
        indexes :=
          (load.indexRows?.map (Index.listOfRows · session.columns)).getD
            ((load.foreignKeyRows?.map (ForeignKey.indexesBeside · session.indexes)).getD
              session.indexes)
        foreignKeys :=
          (load.foreignKeyRows?.map ForeignKey.listOfRows).getD session.foreignKeys } := by
  cases load with
  | columns dump =>
    rw [step, Load.perform_columns, Load.columnRows?]
    cases Dump.readColumnRows dump <;> rfl
  | indexes dump =>
    rw [step, Load.perform_indexes, Load.indexRows?]
    cases Dump.readIndexRows dump <;> rfl
  | foreignKeys dump =>
    rw [step, Load.perform_foreignKeys, Load.foreignKeyRows?]
    cases Dump.readForeignKeyRows dump <;> rfl

theorem columnsOf_concat (loads : List Load) (load : Load) :
    columnsOf (loads ++ [load]) =
      (load.columnRows?.map Column.listOfRows).getD (columnsOf loads) := by
  rw [columnsOf, columnsOf, lastLoad?_concat]
  cases load.columnRows? with
  | some rows => rfl
  | none => cases lastLoad? Load.columnRows? loads <;> rfl

theorem foreignKeysOf_concat (loads : List Load) (load : Load) :
    foreignKeysOf (loads ++ [load]) =
      (load.foreignKeyRows?.map ForeignKey.listOfRows).getD (foreignKeysOf loads) := by
  rw [foreignKeysOf, foreignKeysOf, lastLoad?_concat]
  cases load.foreignKeyRows? with
  | some rows => rfl
  | none => cases lastLoad? Load.foreignKeyRows? loads <;> rfl

theorem indexesOf_concat (loads : List Load) (load : Load) :
    indexesOf (loads ++ [load]) =
      (load.indexRows?.map (Index.listOfRows · (columnsOf loads))).getD
        ((load.foreignKeyRows?.map (ForeignKey.indexesBeside · (indexesOf loads))).getD
          (indexesOf loads)) := by
  rw [indexesOf, indexesOf, lastLoad?_concat]
  -- A dump of indexes starts anew; a dump of foreign keys takes its names off what was there.
  cases load.indexRows? with
  | some rows => simp [namedByForeignKey]
  | none =>
    cases lastLoad? Load.indexRows? loads with
    | none => cases load.foreignKeyRows? <;> rfl
    | some parts =>
      cases read : load.foreignKeyRows? with
      | none => simp [namedByForeignKey, read]
      | some rows =>
        simp [namedByForeignKey, read, ForeignKey.indexesBeside, List.filter_filter, Bool.and_comm]

/-! ### Runs -/

theorem run_concat (session : Session) (loads : List Load) (load : Load) :
    session.run (loads ++ [load]) = (session.run loads).step load := by
  rw [run, run, List.foldl_append]
  rfl

/-- A session is determined by the last dumps that could be read. -/
theorem run_start (table : String) (loads : List Load) :
    (start table).run loads = ofHistory table loads := by
  -- From the end: the last load is the one that counts, or leaves what counted before.
  induction loads using List.reverseRecOn with
  | nil => rfl
  | append_singleton loads load ih =>
    rw [run_concat, ih, step_eq]
    simp only [ofHistory, columnsOf_concat, indexesOf_concat, foreignKeysOf_concat]

theorem table_run (session : Session) (loads : List Load) :
    (session.run loads).table = session.table := by
  induction loads using List.reverseRecOn with
  | nil => rfl
  | append_singleton loads load ih => rw [run_concat, step_eq, ih]

/-- The three dumps of a table, loaded in order, leave nothing of what the session held before but
the name of the table. -/
theorem run_dumps (session : Session) {columns indexes foreignKeys : String}
    {columnRows : List Dump.ColumnRow} {indexRows : List Dump.IndexRow}
    {foreignKeyRows : List Dump.ForeignKeyRow}
    (hc : Dump.readColumnRows columns = .ok columnRows)
    (hi : Dump.readIndexRows indexes = .ok indexRows)
    (hf : Dump.readForeignKeyRows foreignKeys = .ok foreignKeyRows) :
    session.run [.columns columns, .indexes indexes, .foreignKeys foreignKeys] =
      { table := session.table
        columns := Column.listOfRows columnRows
        indexes := ForeignKey.indexesBeside foreignKeyRows
          (Index.listOfRows indexRows (Column.listOfRows columnRows))
        foreignKeys := ForeignKey.listOfRows foreignKeyRows } := by
  simp [run, step, Load.perform_columns, Load.perform_indexes, Load.perform_foreignKeys, hc, hi, hf]

theorem migrationOf_eq (table : String) {columns indexes foreignKeys : String}
    {columnRows : List Dump.ColumnRow} {indexRows : List Dump.IndexRow}
    {foreignKeyRows : List Dump.ForeignKeyRow} (template : Template) (indent : Nat)
    (hc : Dump.readColumnRows columns = .ok columnRows)
    (hi : Dump.readIndexRows indexes = .ok indexRows)
    (hf : Dump.readForeignKeyRows foreignKeys = .ok foreignKeyRows) :
    migrationOf table columns indexes foreignKeys template indent =
      .ok (((start table).run
        [.columns columns, .indexes indexes, .foreignKeys foreignKeys]).migration
          template indent) := by
  rw [run_dumps _ hc hi hf, migrationOf, loadColumns_eq, hc]
  simp only [Except.map, Except.bind, bind, loadIndexes_eq, hi, loadForeignKeys_eq, hf]
  rfl

/-- Every run of a session ends in the session of its history, a load that fails changes nothing,
and after any run the three dumps of a table give the migration that they give on their own. -/
theorem run_eq_ofHistory (table : String) (loads : List Load) :
    (start table).run loads = ofHistory table loads ∧
      (∀ load fault after, load.perform ((start table).run loads) = (.error fault, after) →
        after = (start table).run loads ∧
          (start table).run (loads ++ [load]) = (start table).run loads) ∧
      ∀ columns indexes foreignKeys columnRows indexRows foreignKeyRows,
        Dump.readColumnRows columns = .ok columnRows →
        Dump.readIndexRows indexes = .ok indexRows →
        Dump.readForeignKeyRows foreignKeys = .ok foreignKeyRows →
        ∀ template indent,
          migrationOf table columns indexes foreignKeys template indent =
            .ok (((start table).run
              (loads ++ [.columns columns, .indexes indexes, .foreignKeys foreignKeys])).migration
                template indent) := by
  refine ⟨run_start table loads, fun load fault after failed => ?_, ?_⟩
  · have same := Load.eq_of_perform_error failed
    refine ⟨same, ?_⟩
    rw [run_concat, step, failed, same]
  · intro columns indexes foreignKeys columnRows indexRows foreignKeyRows hc hi hf template indent
    have continued : (start table).run
        (loads ++ [.columns columns, .indexes indexes, .foreignKeys foreignKeys]) =
        ((start table).run loads).run
          [.columns columns, .indexes indexes, .foreignKeys foreignKeys] :=
      List.foldl_append
    rw [migrationOf_eq table template indent hc hi hf, continued, run_dumps _ hc hi hf,
      run_dumps _ hc hi hf, table_run]

end Session

end TableMigration
