import TableMigration.Proofs.Session.Inventory

/-!
# Indexes and the foreign keys that stand for them

What becomes of the indexes of a table as dumps of foreign keys are loaded, one after another.
`count_keyNames` says that each index is declared once, as itself or by the foreign key of its name,
unless a dump that names it is followed by a last one that does not.
-/

namespace TableMigration.Session

/-- The names of the indexes and of the foreign keys. -/
def keyNames (session : Session) : List String :=
  session.indexes.map (·.name) ++ session.foreignKeys.map (·.name)

/-- The rows of those dumps of foreign keys that can be read. -/
def readable (dumps : List String) : List (List Dump.ForeignKeyRow) :=
  dumps.filterMap fun dump => (Dump.readForeignKeyRows dump).toOption

/-- A dump of foreign keys has the name, and the last one has it no more. -/
def Forgets (dumps : List String) (name : String) : Prop :=
  (∃ rows ∈ readable dumps, name ∈ rows.map (·.name)) ∧
    ∀ rows ∈ (readable dumps).getLast?, name ∉ rows.map (·.name)

instance (dumps : List String) (name : String) : Decidable (Forgets dumps name) :=
  inferInstanceAs (Decidable ((∃ rows ∈ readable dumps, name ∈ rows.map (·.name)) ∧
    ∀ rows ∈ (readable dumps).getLast?, name ∉ rows.map (·.name)))

/-! ### Loading foreign keys -/

theorem step_foreignKeys (session : Session) (dump : String) :
    session.step (.foreignKeys dump) =
      match Dump.readForeignKeyRows dump with
      | .ok rows =>
        { session with
          indexes := ForeignKey.indexesBeside rows session.indexes
          foreignKeys := ForeignKey.listOfRows rows }
      | .error _ => session := by
  rw [step, Load.perform_foreignKeys]
  cases Dump.readForeignKeyRows dump <;> rfl

theorem readable_concat_ok {dump : String} {rows : List Dump.ForeignKeyRow}
    (read : Dump.readForeignKeyRows dump = .ok rows) (dumps : List String) :
    readable (dumps ++ [dump]) = readable dumps ++ [rows] := by
  simp [readable, read, Except.toOption]

theorem readable_concat_error {dump : String} {fault : Dump.MalformedRow}
    (read : Dump.readForeignKeyRows dump = .error fault) (dumps : List String) :
    readable (dumps ++ [dump]) = readable dumps := by
  simp [readable, read, Except.toOption]

/-- Each dump that can be read takes its names away from the indexes. -/
theorem indexNames_run (session : Session) (dumps : List String) :
    (session.run (dumps.map .foreignKeys)).indexes.map (·.name) =
      (session.indexes.map (·.name)).filter fun name =>
        ∀ rows ∈ readable dumps, name ∉ rows.map (·.name) := by
  induction dumps using List.reverseRecOn with
  | nil => simp [run, readable]
  | append_singleton dumps dump ih =>
    rw [List.map_append, List.map_singleton, run_concat, step_foreignKeys]
    cases read : Dump.readForeignKeyRows dump with
    | error fault => rw [readable_concat_error read, ← ih]
    | ok rows =>
      rw [readable_concat_ok read, ForeignKey.map_name_indexesBeside, ih, List.filter_filter]
      refine List.filter_congr fun name _ => ?_
      rw [← Bool.decide_and]
      refine decide_eq_decide.mpr ?_
      rw [List.forall_mem_append, List.forall_mem_singleton]
      exact and_comm

/-- Only the last dump that can be read gives its foreign keys. -/
theorem foreignKeys_run (session : Session) (dumps : List String) :
    (session.run (dumps.map .foreignKeys)).foreignKeys =
      ((readable dumps).getLast?.map ForeignKey.listOfRows).getD session.foreignKeys := by
  induction dumps using List.reverseRecOn with
  | nil => rfl
  | append_singleton dumps dump ih =>
    rw [List.map_append, List.map_singleton, run_concat, step_foreignKeys]
    cases read : Dump.readForeignKeyRows dump with
    | error fault => rw [readable_concat_error read, ← ih]
    | ok rows => rw [readable_concat_ok read, List.getLast?_concat]; rfl

/-! ### Names -/

theorem count_foreignKeyNames (name : String) (rows : List Dump.ForeignKeyRow) :
    ((ForeignKey.listOfRows rows).map (·.name)).count name =
      if name ∈ rows.map (·.name) then 1 else 0 := by
  rw [ForeignKey.map_name_listOfRows]
  split
  · rename_i named
    exact List.count_eq_one_of_mem (Keyed.nodup_eraseDups _) (List.mem_eraseDups.mpr named)
  · rename_i unnamed
    exact List.count_eq_zero.mpr (mt List.mem_eraseDups.mp unnamed)

theorem count_indexNames {name : String} {rows : List Dump.IndexRow} {columns : List Column}
    (distinct : (columns.map (·.field)).Nodup) (named : name ∈ rows.map (·.name))
    (explicit : ¬(name = Index.primaryName ∧ Index.ImplicitPrimary rows columns)) :
    ((Index.listOfRows rows columns).map (·.name)).count name = 1 := by
  rw [Index.map_name_listOfRows rows distinct]
  refine List.count_eq_one_of_mem ((Keyed.nodup_eraseDups _).filter _)
    (List.mem_filter.mpr ⟨?_, ?_⟩)
  · exact List.mem_eraseDups.mpr named
  · exact decide_eq_true explicit

/-- However often foreign keys are loaded after the columns and the indexes of a table, each index
but an implicit primary key is declared once: as itself, or by a foreign key of its name. Only when
a dump has named it and the last one does not is it declared no more. -/
theorem count_keyNames (table : String) {columns indexes : String}
    {columnRows : List Dump.ColumnRow} {indexRows : List Dump.IndexRow} {name : String}
    (hc : Dump.readColumnRows columns = .ok columnRows)
    (hi : Dump.readIndexRows indexes = .ok indexRows) (named : name ∈ indexRows.map (·.name))
    (explicit : ¬(name = Index.primaryName ∧
      Index.ImplicitPrimary indexRows (Column.listOfRows columnRows))) (dumps : List String) :
    let session := (start table).run (.columns columns :: .indexes indexes :: dumps.map .foreignKeys)
    (¬Forgets dumps name → session.keyNames.count name = 1) ∧
      (Forgets dumps name → session.keyNames.count name = 0) := by
  intro session
  have loaded : session =
      { start table with
        columns := Column.listOfRows columnRows
        indexes := Index.listOfRows indexRows (Column.listOfRows columnRows) }.run
        (dumps.map .foreignKeys) := by
    show (((start table).step (.columns columns)).step (.indexes indexes)).run _ = _
    simp [step, Load.perform_columns, Load.perform_indexes, hc, hi]
  have once := count_indexNames (Column.nodup_field_listOfRows columnRows) named explicit
  have asIndex : (session.indexes.map (·.name)).count name =
      if ∀ rows ∈ readable dumps, name ∉ rows.map (·.name) then 1 else 0 := by
    rw [loaded, indexNames_run]
    split
    · rename_i unnamed
      rw [List.count_filter (by simpa using unnamed), once]
    · rename_i taken
      exact List.count_eq_zero.mpr fun kept => taken (by simpa using (List.mem_filter.mp kept).2)
  have asForeignKey : (session.foreignKeys.map (·.name)).count name =
      if ∃ rows ∈ (readable dumps).getLast?, name ∈ rows.map (·.name) then 1 else 0 := by
    rw [loaded, foreignKeys_run]
    cases (readable dumps).getLast? with
    | none => simp [start]
    | some rows => simpa using count_foreignKeyNames name rows
  unfold keyNames
  rw [List.count_append, asIndex, asForeignKey]
  -- The last dump is one of them: what it names is not an index any more.
  have among : ∀ rows ∈ (readable dumps).getLast?, rows ∈ readable dumps := fun rows last =>
    List.mem_of_getLast? last
  by_cases last : ∃ rows ∈ (readable dumps).getLast?, name ∈ rows.map (·.name)
  · obtain ⟨rows, isLast, inside⟩ := last
    have taken : ¬∀ rows ∈ readable dumps, name ∉ rows.map (·.name) := fun unnamed =>
      unnamed rows (among rows isLast) inside
    rw [if_neg taken, if_pos ⟨rows, isLast, inside⟩]
    exact ⟨fun _ => rfl, fun forgets => absurd inside (forgets.2 rows isLast)⟩
  · have dropped : ∀ rows ∈ (readable dumps).getLast?, name ∉ rows.map (·.name) :=
      fun rows isLast inside => last ⟨rows, isLast, inside⟩
    rw [if_neg last]
    by_cases ever : ∃ rows ∈ readable dumps, name ∈ rows.map (·.name)
    · obtain ⟨rows, read, inside⟩ := ever
      rw [if_neg fun unnamed => unnamed rows read inside]
      exact ⟨fun kept => absurd ⟨⟨rows, read, inside⟩, dropped⟩ kept, fun _ => rfl⟩
    · have unnamed : ∀ rows ∈ readable dumps, name ∉ rows.map (·.name) :=
        fun rows read inside => ever ⟨rows, read, inside⟩
      rw [if_pos unnamed]
      exact ⟨fun _ => rfl, fun forgets => absurd forgets.1 ever⟩

theorem count_keyNames_posts :
    let columns := "\nuser_id\tint(11)\tNO\t\tNULL\t\t"
    let indexes := "\nposts\t1\tfk_user\t1\tuser_id\t\nposts\t1\tslug\t1\tslug\t"
    let users := "\nfk_user\tuser_id\tusers\tid\tCASCADE\tCASCADE"
    let teams := "\nfk_team\tteam_id\tteams\tid\tCASCADE\tCASCADE"
    let session := fun dumps : List String =>
      (start "posts").run (.columns columns :: .indexes indexes :: dumps.map .foreignKeys)
    (session [teams, "\nfk_user", users, "\nfk_user"]).keyNames.count "fk_user" = 1 ∧
      (session [users, teams, "\nfk_user"]).keyNames.count "fk_user" = 0 ∧
      (session []).keyNames.count "fk_user" = 1 := by
  intro columns indexes users teams session
  have hc : Dump.readColumnRows columns =
      .ok [⟨"user_id", "int(11)", "NO", "", "NULL", "", ""⟩] := by
    decide +kernel
  have hi : Dump.readIndexRows indexes =
      .ok [⟨"posts", "1", "fk_user", 1, "user_id", ""⟩, ⟨"posts", "1", "slug", 1, "slug", ""⟩] := by
    decide +kernel
  have kept := count_keyNames "posts" hc hi (show "fk_user" ∈ _ by decide) (by decide)
  exact ⟨(kept _).1 (by decide +kernel), (kept _).2 (by decide +kernel),
    (kept _).1 (by decide +kernel)⟩

/-- A foreign key takes the index of its name away, and loading other foreign keys takes the foreign
key away too. -/
theorem keyNames_lost :
    let columns := "\nuser_id\tint(11)\tNO\t\tNULL\t\t"
    let indexes := "\nposts\t1\tfk_user\t1\tuser_id\t"
    let users := "\nfk_user\tuser_id\tusers\tid\tCASCADE\tCASCADE"
    let teams := "\nfk_team\tteam_id\tteams\tid\tCASCADE\tCASCADE"
    Dump.readColumnRows columns = .ok [⟨"user_id", "int(11)", "NO", "", "NULL", "", ""⟩] ∧
      Dump.readIndexRows indexes = .ok [⟨"posts", "1", "fk_user", 1, "user_id", ""⟩] ∧
      "fk_user" ≠ Index.primaryName ∧
      ((start "posts").run
        [.columns columns, .indexes indexes, .foreignKeys users, .foreignKeys teams]).keyNames =
        ["fk_team"] := by
  decide +kernel

end TableMigration.Session
