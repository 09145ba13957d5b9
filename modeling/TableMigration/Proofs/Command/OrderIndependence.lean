import TableMigration.Proofs.Command.Beside
import TableMigration.Proofs.Sorting

/-!
# The order of the workers does not show

Whatever turns the workers of a batch take, each table comes to what asking for it alone comes to, and
so do the report and the files (`batch_agrees`).
-/

namespace TableMigration.Command

open File (Script Tree Reliable Place Pool)

theorem TableResult.eq_of {result other : TableResult} (table : result.table = other.table)
    (outcome : result.outcome = other.outcome) : result = other := by
  cases result
  cases other
  cases table
  cases outcome
  rfl

/-- No two tables share a file. -/
def OwnFiles (tables : List TableDumps) : Prop :=
  (tables.map (Text.lower ·.table)).Nodup

section

variable {setup : Setup} {directory : String} {moment : Option Moment} {start : Tree}
  {tables : List TableDumps} (separate : Separate directory moment start tables)
include separate

theorem batching_start : Batching setup directory moment start tables start :=
  have grown := Tree.grows_run (Script.makeDirectories directory) start
  ⟨⟨.refl start, separate.sound, .inl grown⟩, grown.directory, .inl, fun there _ => there⟩

/-- The file of a table, if no two tables share one. -/
def OwnFile (directory : String) (moment : Option Moment) (start : Tree) (tables : List TableDumps)
    (i : Nat) (place : Place) : Prop :=
  OwnFiles tables ∧ ∃ dumps, tables[i]? = some dumps ∧
    place = fileOf directory moment dumps.table start

theorem fileOf_ne {i j : Nat} {dumps other : TableDumps} (own : OwnFiles tables) (apart : i ≠ j)
    (h : tables[i]? = some dumps) (h' : tables[j]? = some other) :
    fileOf directory moment dumps.table start ≠ fileOf directory moment other.table start := by
  rw [Ne, fileOf_eq_iff (separate.proper _ (List.mem_of_getElem? h))
    (separate.proper _ (List.mem_of_getElem? h'))]
  exact fun same => apart (index_eq_of_nodup_map own h h' same)

/-- What becomes of the table of a worker. -/
def Becomes (setup : Setup) (directory : String) (moment : Option Moment) (start : Tree)
    (tables : List TableDumps) (i : Nat) (result : TableResult) (after : Tree) : Prop :=
  ∀ dumps, tables[i]? = some dumps → result.table = dumps.table ∧
    (SameButDirectory directory result.outcome
        (alone setup directory moment start dumps).outcome ∧
      (".." ∉ File.Path.steps directory ∨
          ((Script.makeDirectories directory).run start).1 = .ok () →
        result.outcome = (alone setup directory moment start dumps).outcome)) ∧
    (OwnFiles tables → ∀ migration, Writes setup directory moment start dumps migration →
      after.get? (fileOf directory moment dumps.table start) = some (.file migration.toUTF8))

/-- What the worker of a table does. -/
def Works (setup : Setup) (directory : String) (moment : Option Moment) (start : Tree)
    (tables : List TableDumps) (i : Nat) (before after : Tree) : Prop :=
  ∃ dumps, tables[i]? = some dumps ∧
    Converts setup directory moment start tables dumps before after

theorem safe_workers : (workers setup directory moment tables start).Safe
    (fun i => Beside setup directory moment start tables (OwnFile directory moment start tables i))
    (Works setup directory moment start tables)
    (Becomes setup directory moment start tables) := by
  refine safe_workers_of_each fun i dumps isTable =>
    (safe_convertInto_beside separate (List.mem_of_getElem? isTable) _).weaken ?_
  rintro result after ⟨table, comes⟩
  exact ⟨table, ⟨comes.same, comes.plain⟩, fun own => comes.left ⟨own, dumps, isTable, rfl⟩⟩

theorem beside_of_works {i j : Nat} {before after : Tree} (apart : i ≠ j)
    (h : Works setup directory moment start tables j before after) :
    Beside setup directory moment start tables (OwnFile directory moment start tables i) before
      after := by
  obtain ⟨other, isOther, converts⟩ := h
  refine ⟨converts.writes.grows, converts.batching, ?_⟩
  rintro _ content ⟨own, dumps, isTable, rfl⟩ there
  exact converts.writes.others (fileOf_ne separate own apart isTable isOther) there

omit separate in
theorem idle_worker (i : Nat) (tree : Tree) (h : Batching setup directory moment start tables tree) :
    Beside setup directory moment start tables (OwnFile directory moment start tables i) tree tree :=
  ⟨.refl tree, h, fun _ => id⟩

theorem batching_throughout (schedule : List Nat) :
    ∀ tree ∈ (workers setup directory moment tables start).trees schedule,
      Batching setup directory moment start tables tree :=
  Pool.holds_throughout (fun _ => reliable_beside _ _ _ _ _ _) idle_worker
    (fun _ _ _ _ apart _ _ works => beside_of_works separate apart works)
    (fun _ _ _ ⟨_, _, converts⟩ => converts.batching) (safe_workers separate)
    (batching_start separate) schedule

theorem unchanged_of_conversion {i : Nat} {dumps : TableDumps} {failure : Failure}
    (isTable : tables[i]? = some dumps) (fails : conversion setup start dumps = .error failure)
    (schedule : List Nat) :
    (((workers setup directory moment tables start).run schedule).step i).tree =
      ((workers setup directory moment tables start).run schedule).tree := by
  have moments : ∀ tree ∈ (workers setup directory moment tables start).trees schedule, _ :=
    batching_throughout separate schedule
  have safe := Pool.safe_run (fun _ => reliable_beside _ _ _ _ _ _) idle_worker
    (fun _ _ _ _ apart _ _ works => beside_of_works separate apart works)
    (safe_workers separate) moments
  rcases Pool.guaranteed idle_worker safe
    (moments _ (Pool.run_tree_mem_trees _ schedule)) i with same | ⟨other, isOther, converts⟩
  · exact same
  · obtain rfl := Option.some.inj (isTable.symm.trans isOther)
    rcases converts.changes with ⟨migration, converted⟩ | same
    · rw [fails] at converted
      cases converted
    · exact same

section

variable {schedule : List Nat} {results : List TableResult} {after : Tree}
  (ran : (workers setup directory moment tables start).run schedule = .done results after)
include ran

theorem becomes_of_run {i : Nat} {result : TableResult} (isResult : results[i]? = some result) :
    Becomes setup directory moment start tables i result after :=
  Pool.safe_done (fun _ => reliable_beside _ _ _ _ _ _) idle_worker
    (fun _ _ _ _ apart _ _ works => beside_of_works separate apart works)
    (safe_workers separate) (batching_throughout separate schedule) ran isResult

/-- What is in the files in the end. -/
theorem files_of_run (own : OwnFiles tables) {place : Place} {content : ByteArray} :
    after.get? place = some (.file content) ↔
      (∃ dumps ∈ tables, ∃ migration, Writes setup directory moment start dumps migration ∧
        place = fileOf directory moment dumps.table start ∧ content = migration.toUTF8) ∨
      (∀ dumps ∈ tables, ∀ migration, Writes setup directory moment start dumps migration →
        place ≠ fileOf directory moment dumps.table start) ∧
        start.get? place = some (.file content) := by
  have batching : Batching setup directory moment start tables after := by
    have last := Pool.run_tree_mem_trees (workers setup directory moment tables start) schedule
    rw [ran] at last
    exact batching_throughout separate schedule _ last
  -- With files of their own, no worker writes over what another has left.
  have written : ∀ dumps ∈ tables, ∀ migration,
      Writes setup directory moment start dumps migration →
      after.get? (fileOf directory moment dumps.table start) = some (.file migration.toUTF8) := by
    intro dumps member migration writes
    obtain ⟨i, within, rfl⟩ := List.mem_iff_getElem.mp member
    have some : i < results.length := by rwa [length_of_done ran]
    exact (becomes_of_run separate ran (List.getElem?_eq_getElem some) _
      (List.getElem?_eq_getElem within)).2.2 own migration writes
  constructor
  · intro there
    by_cases writer : ∃ dumps ∈ tables, ∃ migration,
        Writes setup directory moment start dumps migration ∧
          place = fileOf directory moment dumps.table start
    · obtain ⟨dumps, member, migration, writes, rfl⟩ := writer
      have same := there.symm.trans (written dumps member migration writes)
      injection same with same
      injection same with same
      exact .inl ⟨dumps, member, migration, writes, rfl, same⟩
    · have apart : ∀ dumps ∈ tables, ∀ migration,
          Writes setup directory moment start dumps migration →
          place ≠ fileOf directory moment dumps.table start :=
        fun dumps member migration writes same => writer ⟨dumps, member, migration, writes, same⟩
      rcases batching.files there with early | ⟨dumps, member, migration, writes, same, -⟩
      · exact .inr ⟨apart, early⟩
      · exact absurd same (apart dumps member migration writes)
  · rintro (⟨dumps, member, migration, writes, rfl, rfl⟩ | ⟨apart, early⟩)
    · exact written dumps member migration writes
    · exact batching.kept early apart

theorem results_of_run :
    List.Forall₂ (fun result lone => result.table = lone.table ∧
        SameButDirectory directory result.outcome lone.outcome) results
      (tables.map (alone setup directory moment start)) ∧
    (".." ∉ File.Path.steps directory ∨
        ((Script.makeDirectories directory).run start).1 = .ok () →
      results = tables.map (alone setup directory moment start)) := by
  have lengths := length_of_done ran
  have becomes := fun i (within : i < results.length) => becomes_of_run separate ran
    (List.getElem?_eq_getElem within) _ (List.getElem?_eq_getElem (lengths ▸ within))
  constructor
  · rw [List.forall₂_iff_get]
    refine ⟨by rw [lengths, List.length_map], fun i within within' => ?_⟩
    have := becomes i within
    simpa [alone_table] using ⟨this.1, this.2.1.1⟩
  · intro plain
    refine List.ext_getElem (by rw [lengths, List.length_map]) fun i within within' => ?_
    have := becomes i within
    rw [List.getElem_map]
    obtain ⟨table, ⟨-, same⟩, -⟩ := this
    exact TableResult.eq_of (table.trans alone_table.symm) (same plain)

end

end

/-! ### Asking for each table -/

/-- What asking for a table alone comes to, in the words of a batch. -/
def generated (setup : Setup) (now : Moment) (directory : String) (tree : Tree)
    (dumps : TableDumps) : TableResult where
  table := dumps.table
  outcome := ((generate (setup.into directory) now dumps.writing).run tree).1.map fun _ =>
    migrationPath directory dumps.table (setup.moment now)

theorem generated_eq_alone (setup : Setup) (now : Moment) (directory : String) (tree : Tree)
    (dumps : TableDumps) :
    generated setup now directory tree dumps =
      alone setup directory (setup.moment now) tree dumps := by
  refine TableResult.eq_of alone_table.symm ?_
  rw [generated, run_generate]
  dsimp only
  rw [alone_outcome]
  rcases conversion setup tree dumps with failure | migration
  · rfl
  dsimp only
  rcases ((Script.makeDirectories directory).run tree).1 with fault | ⟨⟩
  · rfl
  dsimp only
  rcases (((Script.makeDirectories directory).run tree).2.answer _).1 with fault | ⟨⟩ <;> rfl

theorem runEach_generate (setup : Setup) (now : Moment) (directory : String)
    (order : List TableDumps) (tree : Tree) :
    (Pool.runEach (order.map fun dumps => generate (setup.into directory) now dumps.writing)
        tree).2 =
      (Pool.runEach (order.map (convertInto setup directory (setup.moment now))) tree).2 := by
  induction order generalizing tree with
  | nil => rfl
  | cons dumps order ih =>
    rw [List.map_cons, List.map_cons, Pool.runEach, Pool.runEach, run_generate]
    exact ih _

/-! ### Batches -/

/-- A table is written when it is asked for alone. -/
def Succeeds (setup : Setup) (now : Moment) (directory : String) (tree : Tree)
    (dumps : TableDumps) : Bool :=
  (generated setup now directory tree dumps).written?.isSome

/-- A batch comes to what asking for each of its tables alone comes to. -/
structure AsAlone (setup : Setup) (now : Moment) (outputDirectory : String) (before : Tree)
    (tables : List TableDumps) (schedule : List Nat) (results : List TableResult) (report : Report)
    (after : Tree) : Prop where
  /-- Every table is reported once, as written or as failed. -/
  written : report.written.Perm
    ((tables.filter (Succeeds setup now outputDirectory before)).map fun dumps =>
      migrationPath outputDirectory dumps.table (setup.moment now))
  failed : (report.failed.map (·.1)).Perm
    ((tables.filter (!Succeeds setup now outputDirectory before ·)).map (·.table))
  /-- Failures are told in the same words, but for why the directory could not be made. -/
  each : List.Forall₂ (fun result lone => result.table = lone.table ∧
      SameButDirectory outputDirectory result.outcome lone.outcome) results
    (tables.map (generated setup now outputDirectory before))
  reported : report = .ofResults results
  /-- In the same words altogether, if the path to it never goes back or it can be made. -/
  same : ".." ∉ File.Path.steps outputDirectory ∨
      ((Script.makeDirectories outputDirectory).run before).1 = .ok () →
    report = .ofResults (tables.map (generated setup now outputDirectory before))
  /-- A table whose dumps cannot be read or converted changes nothing at all. -/
  unchanged : ∀ i dumps failure, tables[i]? = some dumps →
    ((convertFiles setup dumps).run before).1 = .error failure → ∀ first,
      (((workers setup outputDirectory (setup.moment now) tables before).run first).step i).tree =
        ((workers setup outputDirectory (setup.moment now) tables before).run first).tree
  /-- If no two tables share a file, the files are those that asking for the tables one after another
  leaves, in any order. -/
  files : OwnFiles tables → ∀ order : List TableDumps, order.Perm tables → ∀ place content,
    after.get? place = some (.file content) ↔
      (Pool.runEach (order.map fun dumps => generate (setup.into outputDirectory) now dumps.writing)
        before).2.get? place = some (.file content)
  verdict : (∃ failure, report.verdict = .error failure) ↔ report.failed ≠ []

section

variable {setup : Setup} {now : Moment} {directory outputDirectory : String} {before : Tree}
  {tables : List TableDumps}

theorem written?_of_sameButDirectory {result lone : TableResult}
    (h : SameButDirectory outputDirectory result.outcome lone.outcome) :
    result.written? = lone.written? := by
  rw [TableResult.written?, TableResult.written?]
  rcases h with same | ⟨fault, fault', failed, failed'⟩
  · rw [same]
  · rw [failed, failed']

theorem failed?_of_sameButDirectory {result lone : TableResult} (table : result.table = lone.table)
    (h : SameButDirectory outputDirectory result.outcome lone.outcome) :
    result.failed?.map (·.1) = lone.failed?.map (·.1) := by
  rw [TableResult.failed?, TableResult.failed?, table]
  rcases h with same | ⟨fault, fault', failed, failed'⟩
  · rw [same]
  · rw [failed, failed']
    rfl

theorem filterMap_eq_of_forall₂ {α β γ : Type} {R : α → β → Prop} {f : α → Option γ}
    {g : β → Option γ} (same : ∀ a b, R a b → f a = g b) {l : List α} {l' : List β}
    (h : List.Forall₂ R l l') : l.filterMap f = l'.filterMap g := by
  induction h with
  | nil => rfl
  | cons first _ ih => rw [List.filterMap_cons, List.filterMap_cons, same _ _ first, ih]

theorem verdict_eq_error_iff {report : Report} :
    (∃ failure, report.verdict = .error failure) ↔ report.failed ≠ [] := by
  rw [Report.verdict]
  cases report.failed <;> simp

theorem generated_written? (dumps : TableDumps) (path : String)
    (h : (generated setup now outputDirectory before dumps).written? = some path) :
    path = migrationPath outputDirectory dumps.table (setup.moment now) := by
  rw [written?_eq_some_iff, generated] at h
  dsimp only at h
  rcases came : ((generate (setup.into outputDirectory) now dumps.writing).run before).1 with
    failure | text
  · rw [came] at h
    cases h
  · rw [came] at h
    exact (Except.ok.inj h).symm

theorem generated_failed? (dumps : TableDumps) :
    (generated setup now outputDirectory before dumps).failed?.map (·.1) =
      if Succeeds setup now outputDirectory before dumps then none else some dumps.table := by
  rw [Succeeds, TableResult.written?, TableResult.failed?]
  rcases (generated setup now outputDirectory before dumps).outcome with failure | path <;> rfl

/-- What a batch comes to is what asking for each table alone comes to, whatever turns the workers
take. -/
theorem asAlone_of_run (separate : Separate outputDirectory (setup.moment now) before tables)
    {schedule : List Nat} {results : List TableResult} {report : Report} {after : Tree}
    (ran : (workers setup outputDirectory (setup.moment now) tables before).run schedule =
      .done results after)
    (reported : ∃ order, order.Perm results ∧ report = .ofResults order) :
    AsAlone setup now outputDirectory before tables schedule results report after := by
  obtain ⟨each, same⟩ := results_of_run separate ran
  have lone : tables.map (alone setup outputDirectory (setup.moment now) before) =
      tables.map (generated setup now outputDirectory before) :=
    List.map_congr_left fun dumps _ => (generated_eq_alone setup now outputDirectory before dumps).symm
  rw [lone] at each same
  have told : report = .ofResults results := by
    obtain ⟨order, perm, rfl⟩ := reported
    exact ofResults_eq_of_perm perm
  subst told
  refine ⟨?_, ?_, each, rfl, fun plain => by rw [same plain],
    fun i dumps failure isTable fails first => unchanged_of_conversion separate isTable fails first,
    fun own order perm place content => ?_, verdict_eq_error_iff⟩
  · refine (Sorting.sort_perm _ _).trans (.of_eq ?_)
    rw [filterMap_eq_of_forall₂ (fun _ _ h => written?_of_sameButDirectory h.2) each,
      List.filterMap_map]
    exact filterMap_eq_map_filter fun dumps _ => generated_written? dumps
  · refine ((Sorting.sort_perm _ _).map _).trans (.of_eq ?_)
    rw [List.map_filterMap,
      filterMap_eq_of_forall₂ (fun _ _ h => failed?_of_sameButDirectory h.1 h.2) each,
      List.filterMap_map]
    refine (filterMap_eq_map_filter (g := TableDumps.table) fun dumps _ name h => ?_).trans ?_
    · rw [Function.comp, generated_failed?] at h
      split_ifs at h
      exact (Option.some.inj h).symm
    · refine congrArg _ (List.filter_congr fun dumps _ => ?_)
      rw [Function.comp, generated_failed?]
      cases Succeeds setup now outputDirectory before dumps <;> rfl
  · have separate' := Separate.of_perm perm separate
    have own' : OwnFiles order := (perm.map _).nodup_iff.mpr own
    -- Asking for the tables one after another is one of the schedules.
    obtain ⟨schedule', finished⟩ := Pool.exists_runEach []
      (order.map (convertInto setup outputDirectory (setup.moment now))) before
    rw [files_of_run separate ran own, runEach_generate, files_of_run separate' finished own']
    simp only [perm.mem_iff]

/-- The order of the workers shows neither in the report nor in the files: a batch comes to what asking
for each of its tables alone comes to. -/
theorem batch_agrees (sound : before.Sound)
    (found : (findTables setup.config directory).run before = (.ok tables, before))
    (apart : ∀ dumps ∈ tables, ∀ path ∈ dumps.paths, ∀ other ∈ tables,
      before.placeOf path ≠
        before.placeOf (migrationPath outputDirectory other.table (setup.moment now))) :
    ((tables.map (·.table)).Nodup ∧
      ∀ name, name ∈ tables.map (·.table) ↔ IsTable before setup.config directory name) ∧
    (∀ first, ∃ rest results report after, BatchRun setup now directory outputDirectory before tables
      (first ++ rest) results report after) ∧
    ∀ schedule results report after,
      BatchRun setup now directory outputDirectory before tables schedule results report after →
        AsAlone setup now outputDirectory before tables schedule results report after := by
  obtain ⟨distinct, proper⟩ := tables_of_findTables found sound
  refine ⟨⟨distinct, fun name => mem_tables_iff found sound⟩, fun first => ?_,
    fun schedule results report after run => ?_⟩
  · obtain ⟨rest, results, after, finished⟩ :=
      (workers setup outputDirectory (setup.moment now) tables before).exists_completion first
    exact ⟨rest, results, _, after, found, finished, results, .refl _, rfl⟩
  · exact asAlone_of_run ⟨sound, fun dumps member => (proper dumps member).noSlash,
      fun dumps member path => present_of_findTables found member, apart⟩ run.ran run.reported

end

/-! ### Two tables -/

theorem batch_agrees_posts :
    let before := twoTables "posts" "users"
    let tables := [soleDump "posts", soleDump "users"]
    before.Sound ∧ (findTables terse.config "dumps").run before = (.ok tables, before) ∧
      (∃ schedule results report after,
        BatchRun terse noon "dumps" "out" before tables schedule results report after) ∧
      ∀ schedule results report after,
        BatchRun terse noon "dumps" "out" before tables schedule results report after →
          report = {
            written := ["out/create_posts_table.php", "out/create_users_table.php"]
            failed := [] } := by
  intro before tables
  have sound : before.Sound := .of_entries (by decide +kernel) (by decide +kernel) (by decide +kernel)
  have found : (findTables terse.config "dumps").run before = (.ok tables, before) := rfl
  have apart : ∀ dumps ∈ tables, ∀ path ∈ dumps.paths, ∀ other ∈ tables,
      before.placeOf path ≠ before.placeOf (migrationPath "out" other.table (terse.moment noon)) := by
    decide +kernel
  obtain ⟨-, complete, agrees⟩ := batch_agrees sound found apart
  obtain ⟨rest, results, report, after, run⟩ := complete []
  refine ⟨sound, found, ⟨_, _, _, _, run⟩, fun schedule results report after run => ?_⟩
  rw [(agrees schedule results report after run).same (.inl (by decide +kernel))]
  decide +kernel

/-- A directory that cannot be made, for it would be in a file, is refused in other words once a
directory was made on the way that goes back. -/
theorem batch_disagrees :
    let before := (twoTables "a" "b").put ["f"] (.file "".toUTF8)
    let tables := [soleDump "a", soleDump "b"]
    before.Sound ∧
      (∀ dumps ∈ tables, ∀ path ∈ dumps.paths, ∀ other ∈ tables,
        before.placeOf path ≠ before.placeOf (migrationPath "n/../f/x" other.table none)) ∧
      (generated terse noon "n/../f/x" before (soleDump "b")).failed? =
        some ("b", "创建输出目录失败: n/../f/x: File exists (os error 17)") ∧
      ∃ results report after,
        BatchRun terse noon "dumps" "n/../f/x" before tables [0, 0, 0, 0, 0, 0, 0, 0, 0, 1, 1, 1]
          results report after ∧
        report.failed = [
          ("a", "创建输出目录失败: n/../f/x: File exists (os error 17)"),
          ("b", "创建输出目录失败: n/../f/x: Not a directory (os error 20)")] := by
  intro before tables
  refine ⟨.of_entries (by decide +kernel) (by decide +kernel) (by decide +kernel),
    by decide +kernel, by decide +kernel, _, _, _,
    ⟨rfl, Pool.eq_done (by decide +kernel), _, .refl _, rfl⟩, by decide +kernel⟩

end TableMigration.Command
