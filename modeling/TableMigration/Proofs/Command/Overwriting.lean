import TableMigration.Proofs.Command.Concurrent
import TableMigration.Proofs.Command.Course
import TableMigration.Proofs.Naming

/-!
# Migrations that overwrite each other

Two tables of a batch are written to one file just if their names are the same in lower case. A table
that shares its file with no other finds its own translation there in the end, made from its dumps as
they were when its worker read them, whatever turns the workers take (`migration_kept`).
-/

namespace TableMigration.Command

open File (Script Tree Place Turn Request)

/-- What a worker does to a tree: it writes to no other file. -/
structure WritesOnly (place : Place) (before after : Tree) : Prop where
  grows : before.Grows after
  others : ∀ {other content}, other ≠ place → before.get? other = some (.file content) →
    after.get? other = some (.file content)

theorem filterMap_eq_map_filter {α β : Type} {f : α → Option β} {g : α → β} {l : List α}
    (h : ∀ a ∈ l, ∀ b, f a = some b → b = g a) :
    l.filterMap f = (l.filter fun a => (f a).isSome).map g := by
  induction l with
  | nil => rfl
  | cons a l ih =>
    rw [List.forall_mem_cons] at h
    rcases found : f a with - | b
    · simp [found, ih h.2]
    · simp [found, ih h.2, h.1 b found]

theorem index_eq_of_nodup_map {α β : Type} {f : α → β} {l : List α} (distinct : (l.map f).Nodup)
    {i j : Nat} {a b : α} (first : l[i]? = some a) (second : l[j]? = some b) (same : f a = f b) :
    i = j := by
  have within : i < (l.map f).length := by
    rw [List.length_map]
    exact (List.getElem?_eq_some_iff.mp first).1
  refine (List.getElem?_inj within distinct).mp ?_
  rw [List.getElem?_map, List.getElem?_map, first, second, Option.map_some, Option.map_some, same]

theorem WritesOnly.refl (place : Place) (tree : Tree) : WritesOnly place tree tree :=
  ⟨.refl tree, fun _ => id⟩

theorem writesOnly_makeDirectory (place : Place) (tree : Tree) (path : String) :
    WritesOnly place tree (tree.answer (.makeDirectory path)).2 := by
  refine ⟨tree.grows_answer _, fun {other content} _ there => ?_⟩
  rcases made : tree.makeDirectory path with fault | changed
  · rwa [Tree.answer_makeDirectory_of_error made]
  · rw [Tree.answer_makeDirectory_of_ok made]
    obtain ⟨parent, name, -, -, free, rfl⟩ := Tree.makeDirectory_eq_ok made
    rw [Tree.get?_put (by simp), if_neg, there]
    rintro rfl
    rw [free] at there
    cases there

theorem writesOnly_answer {tree : Tree} {request : Request} {path : String}
    (nowhereElse : request.WritesNowhereBut path) :
    WritesOnly (tree.placeOf path) tree (tree.answer request).2 := by
  cases request with
  | status | read | list => exact .refl _ tree
  | append => exact nowhereElse.elim
  | makeDirectory => exact writesOnly_makeDirectory _ tree _
  | write other text =>
    obtain rfl : other = path := nowhereElse
    refine ⟨tree.grows_answer _, fun {place content} apart there => ?_⟩
    rcases written : tree.change other fun _ => text.toUTF8 with fault | changed
    · rwa [Tree.answer_write_of_error written]
    · rw [Tree.answer_write_of_ok written]
      obtain ⟨old, rfl, nonroot, -⟩ := Tree.find_change written
      rwa [Tree.get?_put nonroot, if_neg apart]

theorem written?_eq_some_iff {result : TableResult} {path : String} :
    result.written? = some path ↔ result.outcome = .ok path := by
  rw [TableResult.written?]
  cases result.outcome <;> simp

def fileOf (outputDirectory : String) (moment : Option Moment) (table : String) (tree : Tree) :
    Place :=
  tree.placeOf (migrationPath outputDirectory table moment)

section

variable {outputDirectory table other : String} {moment : Option Moment}
  (proper : '/' ∉ table.toList) (proper' : '/' ∉ other.toList)
include proper proper'

theorem migrationPath_eq_iff :
    migrationPath outputDirectory table moment = migrationPath outputDirectory other moment ↔
      Text.lower table = Text.lower other := by
  rw [migrationPath, migrationPath, File.Path.join_inj (Naming.isName_fileName proper moment).isStep
    (Naming.isName_fileName proper' moment).isStep, Naming.fileName_eq_iff]

theorem fileOf_eq_iff {tree : Tree} :
    fileOf outputDirectory moment table tree = fileOf outputDirectory moment other tree ↔
      Text.lower table = Text.lower other := by
  rw [fileOf, fileOf, migrationPath, migrationPath,
    Tree.placeOf_join tree (Naming.isName_fileName proper moment),
    Tree.placeOf_join tree (Naming.isName_fileName proper' moment), List.append_cancel_left_eq,
    List.singleton_inj, Naming.fileName_eq_iff]

end

/-! ### Batches -/

section

variable {setup : Setup} {outputDirectory : String} {moment : Option Moment} {before : Tree}
  {tables : List TableDumps} {schedule : List Nat}

/-- Every request of a worker leaves all files alone but that of its table. -/
theorem asks_workers :
    (workers setup outputDirectory moment tables before).Asks fun i request =>
      ∃ dumps, tables[i]? = some dumps ∧
        request.WritesNowhereBut (migrationPath outputDirectory dumps.table moment) := by
  intro i script isScript
  obtain ⟨dumps, isTable, rfl⟩ := Option.map_eq_some_iff.mp
    ((List.getElem?_map).symm.trans isScript)
  exact (asks_convertInto outputDirectory moment).weaken fun _ h => ⟨dumps, isTable, h⟩

/-- What a worker wrote with its last request stays there, if no other table is written to that
file. -/
theorem read_of_last_write {i : Nat} {path migration : String}
    (sole : ∀ j other, j ≠ i → tables[j]? = some other →
      fileOf outputDirectory moment other.table before ≠ before.placeOf path)
    {turns : List Turn} {tree : Tree}
    (last : (workers setup outputDirectory moment tables before).turns i schedule =
      turns ++ [⟨.write path migration, tree⟩])
    (succeeds : (tree.answer (.write path migration)).1 = .ok ()) :
    ((workers setup outputDirectory moment tables before).run schedule).tree.read path =
      .ok migration.toUTF8 := by
  obtain ⟨first, rest, rfl, found, silent⟩ := File.Pool.exists_last_turn last
  obtain ⟨here, stepped⟩ := File.Pool.tree_step_of_turn? found
  dsimp only at here stepped
  have grown : before.Grows tree := by
    rw [here]
    exact File.Pool.grows_run (workers setup outputDirectory moment tables before) first
  rcases written : tree.change path fun _ => migration.toUTF8 with fault | changed
  · rw [Tree.answer_write_of_error written] at succeeds
    cases succeeds
  rw [Tree.answer_write_of_ok written] at stepped
  obtain ⟨-, -, -, there⟩ := Tree.find_change written
  rw [grown.placeOf] at there
  -- From the write on, only other workers take turns, and each writes to the file of its own table.
  have stays := File.Pool.holds_while_silent
    (M := fun later => before.Grows later ∧
      later.find path = .ok (before.placeOf path, .file migration.toUTF8))
    (File.Pool.asks_step (File.Pool.asks_run asks_workers first) i) ?_ silent ?_
  · rw [File.Pool.run_append]
    exact Tree.read_of_find stays.2
  · rintro j later request other ⟨dumps, isTable, nowhereElse⟩ ⟨grown, there⟩
    have writes : WritesOnly (later.placeOf _) later _ := writesOnly_answer nowhereElse
    refine ⟨grown.trans writes.grows, writes.grows.find there (writes.others ?_
      (Tree.find_eq_ok_iff.mp there).2.2.1)⟩
    rw [grown.placeOf]
    exact (sole j dumps other isTable).symm
  · rw [stepped]
    exact ⟨grown.trans (Tree.grows_change written), there⟩

end

/-- Where the migrations of a batch are in the end. -/
structure Kept (setup : Setup) (now : Moment) (outputDirectory : String) (before : Tree)
    (tables : List TableDumps) (schedule : List Nat) (results : List TableResult) (report : Report)
    (after : Tree) : Prop where
  named : results.map (·.table) = tables.map (·.table)
  reported : ∀ path, path ∈ report.written ↔ ∃ result ∈ results, result.outcome = .ok path
  /-- Two tables are written to one path just if their names are the same in lower case. -/
  shared : ∀ first ∈ results, ∀ second ∈ results, ∀ path path', first.outcome = .ok path →
    second.outcome = .ok path' → (path = path' ↔ Text.lower first.table = Text.lower second.table)
  distinct : report.written.Nodup ↔
    ((results.filter (·.written?.isSome)).map (Text.lower ·.table)).Nodup
  /-- The worker of a table that was written read its dumps, and then wrote what these made when it
  read them. If no other table has its name in lower case, that is in its file. -/
  own : ∀ (i : Nat) dumps result path, tables[i]? = some dumps → results[i]? = some result →
    result.outcome = .ok path →
      path = migrationPath outputDirectory dumps.table (setup.moment now) ∧
      ∃ (course : Course) (migration : String),
        course.Writes setup dumps path migration
          ((workers setup outputDirectory (setup.moment now) tables before).turns i schedule) ∧
        ((∀ other ∈ tables, other.table ≠ dumps.table →
            Text.lower other.table ≠ Text.lower dumps.table) →
          after.read path = .ok migration.toUTF8)

section

variable {setup : Setup} {now : Moment} {directory outputDirectory : String} {before after : Tree}
  {tables : List TableDumps} {schedule : List Nat} {results : List TableResult} {report : Report}
  (run : BatchRun setup now directory outputDirectory before tables schedule results report after)
include run

/-- What becomes of each table, by the turns of its worker. -/
theorem result_of_batchRun {i : Nat} {result : TableResult} {dumps : TableDumps}
    (isResult : results[i]? = some result) (isTable : tables[i]? = some dumps) :
    result.table = dumps.table ∧
      ∀ path, result.outcome = .ok path →
        path = migrationPath outputDirectory dumps.table (setup.moment now) ∧
        ∃ (course : Course) (migration : String), course.Writes setup dumps path migration
          ((workers setup outputDirectory (setup.moment now) tables before).turns i schedule) := by
  have isScript : (workers setup outputDirectory (setup.moment now) tables before).scripts[i]? =
      some (convertInto setup outputDirectory (setup.moment now) dumps) := by
    rw [workers, List.getElem?_map, isTable]
    rfl
  have isDone : ((workers setup outputDirectory (setup.moment now) tables before).run
      schedule).scripts[i]? = some (.done result) := by
    rw [run.ran, File.Pool.done, List.getElem?_map, isResult]
    rfl
  exact exists_course (File.Pool.takes_turns isScript isDone)

theorem exists_dumps {result : TableResult} (h : result ∈ results) :
    ∃ (i : Nat) (dumps : TableDumps), results[i]? = some result ∧ tables[i]? = some dumps := by
  obtain ⟨i, within, rfl⟩ := List.mem_iff_getElem.mp h
  have := length_of_done run.ran
  exact ⟨i, tables[i], List.getElem?_eq_getElem within, List.getElem?_eq_getElem (by omega)⟩

theorem map_table_of_batchRun : results.map (·.table) = tables.map (·.table) := by
  refine List.ext_getElem (by simp [length_of_done run.ran]) fun i within within' => ?_
  rw [List.getElem_map, List.getElem_map]
  exact (result_of_batchRun run (List.getElem?_eq_getElem _) (List.getElem?_eq_getElem _)).1

theorem written_perm : report.written.Perm (results.filterMap TableResult.written?) := by
  obtain ⟨order, perm, rfl⟩ := run.reported
  exact (Sorting.sort_perm _ _).trans (perm.filterMap _)

theorem path_of_written? {result : TableResult} (h : result ∈ results) {path : String}
    (written : result.written? = some path) :
    path = migrationPath outputDirectory result.table (setup.moment now) := by
  obtain ⟨i, dumps, isResult, isTable⟩ := exists_dumps run h
  obtain ⟨table, becomes⟩ := result_of_batchRun run isResult isTable
  rw [table]
  exact (becomes path (written?_eq_some_iff.mp written)).1

/-- Two tables are written to one file just if their names are the same in lower case, and a table
that shares its file with no other finds its own translation there. -/
theorem migration_kept (sound : before.Sound) :
    Kept setup now outputDirectory before tables schedule results report after := by
  obtain ⟨distinct, proper⟩ := tables_of_findTables run.found sound
  have slashless : ∀ result ∈ results, '/' ∉ result.table.toList := by
    intro result member
    obtain ⟨i, dumps, isResult, isTable⟩ := exists_dumps run member
    rw [(result_of_batchRun run isResult isTable).1]
    exact (proper dumps (List.mem_of_getElem? isTable)).noSlash
  refine ⟨map_table_of_batchRun run, fun path => ?_, ?_, ?_, ?_⟩
  · rw [(written_perm run).mem_iff, List.mem_filterMap]
    simp only [written?_eq_some_iff]
  · intro first inFirst second inSecond path path' written written'
    rw [path_of_written? run inFirst (written?_eq_some_iff.mpr written),
      path_of_written? run inSecond (written?_eq_some_iff.mpr written'),
      migrationPath_eq_iff (slashless _ inFirst) (slashless _ inSecond)]
  · have paths : results.filterMap TableResult.written? =
        (results.filter (·.written?.isSome)).map fun result =>
          migrationPath outputDirectory result.table (setup.moment now) :=
      filterMap_eq_map_filter fun result member path => path_of_written? run member
    rw [(written_perm run).nodup_iff, paths]
    change List.Pairwise _ _ ↔ List.Pairwise _ _
    rw [List.pairwise_map, List.pairwise_map]
    refine List.Pairwise.iff_of_mem fun {first second} inFirst inSecond => not_congr ?_
    exact migrationPath_eq_iff (slashless _ (List.mem_filter.mp inFirst).1)
      (slashless _ (List.mem_filter.mp inSecond).1)
  · intro i dumps result path isTable isResult outcome
    obtain ⟨same, course, migration, writes⟩ :=
      (result_of_batchRun run isResult isTable).2 path outcome
    refine ⟨same, course, migration, writes, fun alone => ?_⟩
    have last := writes.inTurn
    rw [← List.append_assoc] at last
    have kept := read_of_last_write (fun j other different isOther => ?_) last writes.succeeds
    · rwa [run.ran] at kept
    rw [same, ← fileOf, Ne, fileOf_eq_iff (proper other (List.mem_of_getElem? isOther)).noSlash
      (proper dumps (List.mem_of_getElem? isTable)).noSlash]
    exact alone other (List.mem_of_getElem? isOther) fun shared =>
      different (index_eq_of_nodup_map distinct isOther isTable shared)

end

/-! ### Two tables -/

/-- A directory of dumps for two tables without columns. -/
def twoTables (first second : String) : Tree where
  entries := [
    (["dumps"], .directory),
    (["dumps", first], .directory), (["dumps", first, "structure.tsv"], .file "".toUTF8),
    (["dumps", second], .directory), (["dumps", second, "structure.tsv"], .file "".toUTF8)]
  workingDirectory := []

/-- The dumps of a table that has only one. -/
def soleDump (table : String) : TableDumps where
  table := table
  structureFile := "dumps/" ++ table ++ "/structure.tsv"
  keysFile := none
  constraintsFile := none

/-- Settings for migrations that only name what they create, in files without a time stamp. -/
def terse : Setup where
  config := { output := { timestampPrefix := false } }
  template := { text := "DummyClass DummyTable" }

def noon : Moment := ⟨2024, 1, 20, 12, 0, 0⟩

theorem migration_kept_posts :
    let before := twoTables "posts" "users"
    let tables := [soleDump "posts", soleDump "users"]
    let schedule := [0, 1, 1, 0, 0, 1, 0]
    before.Sound ∧ ∃ results report after,
      BatchRun terse noon "dumps" "out" before tables schedule results report after ∧
      report.written.Nodup ∧
      ∃ (course : Course) (migration : String),
        course.Writes terse (soleDump "posts") "out/create_posts_table.php" migration
          ((workers terse "out" none tables before).turns 0 schedule) ∧
        after.read "out/create_posts_table.php" = .ok migration.toUTF8 := by
  intro before tables schedule
  have sound : before.Sound := .of_entries (by decide +kernel) (by decide +kernel) (by decide +kernel)
  let finished := (workers terse "out" none tables before).run schedule
  have run : BatchRun terse noon "dumps" "out" before tables schedule finished.results
      (.ofResults finished.results) finished.tree :=
    ⟨rfl, File.Pool.eq_done (by decide +kernel), _, .refl _, rfl⟩
  have names : finished.results.map (Text.lower ·.table) = ["posts", "users"] := by
    decide +kernel
  have posts : (finished.results.map (·.written?))[0]? = some (some "out/create_posts_table.php") := by
    decide +kernel
  rw [List.getElem?_map, Option.map_eq_some_iff] at posts
  obtain ⟨result, isResult, written⟩ := posts
  have kept := migration_kept run sound
  refine ⟨sound, _, _, _, run, kept.distinct.mpr ?_, ?_⟩
  · refine List.Nodup.sublist (List.filter_sublist.map _) ?_
    rw [names]
    decide
  · obtain ⟨-, course, migration, writes, own⟩ :=
      kept.own 0 _ result _ rfl isResult (written?_eq_some_iff.mp written)
    exact ⟨course, migration, writes, own (by decide +kernel)⟩

/-- Of two tables that share a file, the migration of the one that is written first is lost. -/
theorem migration_lost :
    ∃ results after,
      BatchRun terse noon "dumps" "out" (twoTables "Users" "users")
        [soleDump "Users", soleDump "users"] [0, 0, 0, 1, 1, 1, 1] results (.ofResults results)
        after ∧
      (Report.ofResults results).written =
        ["out/create_users_table.php", "out/create_users_table.php"] ∧
      ((convertFiles terse (soleDump "Users")).run (twoTables "Users" "users")).1 =
        .ok "CreateUsersTable Users" ∧
      after.read "out/create_users_table.php" = .ok "CreateUsersTable users".toUTF8 := by
  refine ⟨_, _, ⟨rfl, File.Pool.eq_done (by decide +kernel), _, .refl _, rfl⟩, ?_, ?_, ?_⟩
  · decide +kernel
  · decide +kernel
  · decide +kernel

end TableMigration.Command
