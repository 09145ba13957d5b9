import TableMigration.Proofs.Command.Worker
import TableMigration.Proofs.Dump.Rows
import TableMigration.Proofs.File.Turns

/-!
# The course of a conversion

A worker that writes a migration reads its dumps one after another, makes the directory and writes
what the dumps make as they were when it read them (`exists_course`).
-/

namespace TableMigration.File.Script

/-! ### Making directories -/

theorem asks_forgiveDirectory (path : String) (outcome : Except Fault Unit) :
    (forgiveDirectory path outcome).Asks Request.OpensNoFile := by
  cases outcome with
  | ok => exact .pure _
  | error fault =>
    refine .bind (.bind ⟨trivial, fun _ => trivial⟩ fun _ => .pure _) fun isThere => ?_
    cases isThere <;> exact .pure _

theorem asks_makeFirstOf (paths : List String) :
    (makeFirstOf paths).Asks Request.OpensNoFile := by
  have asks_makeDirectory (path : String) : (makeDirectory path).Asks Request.OpensNoFile :=
    ⟨trivial, fun _ => trivial⟩
  induction paths with
  | nil => exact .pure _
  | cons path parents ih =>
    refine .bind (asks_makeDirectory path) fun outcome => ?_
    split
    · refine .bind ih fun made => ?_
      split
      · exact .bind (asks_makeDirectory path) fun again => asks_forgiveDirectory path again
      · exact .pure _
    · exact asks_forgiveDirectory path _

end TableMigration.File.Script

namespace TableMigration.Command

open File (Script Tree Turn Request)

/-- The dumps that are given are read one after another, each in a tree of its own. -/
def TableDumps.reads (dumps : TableDumps) (columns indexes foreignKeys : Tree) : List Turn :=
  ⟨.read dumps.structureFile, columns⟩ ::
    (dumps.keysFile.toList.map (⟨.read ·, indexes⟩) ++
      dumps.constraintsFile.toList.map (⟨.read ·, foreignKeys⟩))

/-- The trees in which a worker that writes a migration makes its requests. -/
structure Course where
  columns : Tree
  indexes : Tree
  foreignKeys : Tree
  directories : List Turn
  write : Tree

/-- With these turns, a worker reads the dumps of a table, makes the directory and writes the
migration that the dumps make, each as it is when it is read. -/
structure Course.Writes (course : Course) (setup : Setup) (dumps : TableDumps)
    (path migration : String) (turns : List Turn) : Prop where
  inTurn : turns = dumps.reads course.columns course.indexes course.foreignKeys ++
    (course.directories ++ [⟨.write path migration, course.write⟩])
  converts : conversionOf setup dumps ((readDump (some dumps.structureFile)).run course.columns).1
    ((readDump dumps.keysFile).run course.indexes).1
    ((readDump dumps.constraintsFile).run course.foreignKeys).1 = .ok migration
  makes : ∀ turn ∈ course.directories, turn.request.OpensNoFile
  succeeds : (course.write.answer (.write path migration)).1 = .ok ()

variable {setup : Setup} {dumps : TableDumps} {turns : List Turn}

/-! ### From the turns of a worker to its course -/

theorem exists_of_takes_readText {path : String} {outcome : Except File.Fault String}
    (h : (Script.readText path).Takes turns outcome) :
    ∃ tree, turns = [⟨.read path, tree⟩] ∧ outcome = ((Script.readText path).run tree).1 := by
  obtain ⟨next, same, ends⟩ := Script.exists_readText_eq path
  rw [same] at h ⊢
  exact Script.exists_of_takes_once ends h

theorem exists_of_takes_readDump {dump : Option String} {outcome : Except Failure String}
    (h : (readDump dump).Takes turns outcome) :
    ∃ tree, turns = dump.toList.map (⟨.read ·, tree⟩) ∧ outcome = ((readDump dump).run tree).1 := by
  cases dump with
  | none =>
    obtain ⟨rfl, rfl⟩ := Script.takes_pure_iff.mp h
    exact ⟨⟨[], []⟩, rfl, rfl⟩
  | some path =>
    obtain ⟨_, _, read, rfl, reads, last⟩ := Script.takes_bind_iff.mp h
    obtain ⟨rfl, rfl⟩ := Script.takes_pure_iff.mp last
    obtain ⟨tree, rfl, rfl⟩ := exists_of_takes_readText reads
    exact ⟨tree, rfl, by rw [readDump, Script.run_bind]; rfl⟩

theorem exists_of_takes_convertFiles {migration : String}
    (h : (convertFiles setup dumps).Takes turns (.ok migration)) :
    ∃ columns indexes foreignKeys, turns = dumps.reads columns indexes foreignKeys ∧
      conversionOf setup dumps ((readDump (some dumps.structureFile)).run columns).1
        ((readDump dumps.keysFile).run indexes).1
        ((readDump dumps.constraintsFile).run foreignKeys).1 = .ok migration := by
  obtain ⟨_, _, columnsText, rfl, first, then₁⟩ := Script.exists_of_takes_ok h
  obtain ⟨columns, rfl, columnsRead⟩ := exists_of_takes_readDump first
  obtain ⟨_, _, indexesText, rfl, second, then₂⟩ := Script.exists_of_takes_ok then₁
  obtain ⟨indexes, rfl, indexesRead⟩ := exists_of_takes_readDump second
  obtain ⟨_, _, foreignKeysText, rfl, third, last⟩ := Script.exists_of_takes_ok then₂
  obtain ⟨foreignKeys, rfl, foreignKeysRead⟩ := exists_of_takes_readDump third
  obtain ⟨rfl, converted⟩ := Script.takes_pure_iff.mp last
  refine ⟨columns, indexes, foreignKeys, ?_, ?_⟩
  · rw [List.append_nil]
    rfl
  · rw [← columnsRead, ← indexesRead, ← foreignKeysRead, converted]
    rfl

theorem exists_of_takes_writeFile {path migration : String}
    (h : (writeFile path migration).Takes turns (.ok ())) :
    ∃ tree, turns = [⟨.write path migration, tree⟩] ∧
      (tree.answer (.write path migration)).1 = .ok () := by
  obtain ⟨_, _, outcome, rfl, writes, last⟩ := Script.takes_bind_iff.mp h
  obtain ⟨rfl, succeeded⟩ := Script.takes_pure_iff.mp last
  obtain ⟨tree, rfl, rfl⟩ := Script.exists_of_takes_once (fun _ => ⟨_, rfl⟩) writes
  refine ⟨tree, rfl, ?_⟩
  exact Dump.mapError_eq_ok_iff.mp succeeded.symm

theorem exists_of_takes_writeMigration {directory table migration path : String}
    {moment : Option Moment}
    (h : (writeMigration directory table migration moment).Takes turns (.ok path)) :
    path = migrationPath directory table moment ∧
      ∃ directories tree, turns = directories ++ [⟨.write path migration, tree⟩] ∧
        (∀ turn ∈ directories, turn.request.OpensNoFile) ∧
        (tree.answer (.write path migration)).1 = .ok () := by
  obtain ⟨directories, _, made, rfl, makes, later⟩ := Script.exists_of_takes_ok h
  obtain ⟨_, _, written, rfl, writes, last⟩ := Script.exists_of_takes_ok later
  obtain ⟨rfl, same⟩ := Script.takes_pure_iff.mp last
  obtain rfl := Except.ok.inj same
  obtain ⟨tree, rfl, succeeded⟩ := exists_of_takes_writeFile writes
  refine ⟨rfl, directories, tree, by rw [List.append_nil], ?_, succeeded⟩
  exact Script.Asks.of_takes (.bind (Script.asks_makeFirstOf _) fun _ => .pure _) makes

/-- A worker keeps the name of its table, and one that succeeds has written a migration of it. -/
theorem exists_course {directory : String} {moment : Option Moment} {result : TableResult}
    (h : (convertInto setup directory moment dumps).Takes turns result) :
    result.table = dumps.table ∧
      ∀ path, result.outcome = .ok path → path = migrationPath directory dumps.table moment ∧
        ∃ (course : Course) (migration : String),
          course.Writes setup dumps path migration turns := by
  obtain ⟨_, _, outcome, rfl, takes, last⟩ := Script.takes_bind_iff.mp h
  obtain ⟨rfl, rfl⟩ := Script.takes_pure_iff.mp last
  refine ⟨rfl, ?_⟩
  rintro path rfl
  obtain ⟨_, _, migration, rfl, converts, writes⟩ := Script.exists_of_takes_ok takes
  obtain ⟨columns, indexes, foreignKeys, rfl, converted⟩ := exists_of_takes_convertFiles converts
  obtain ⟨same, directories, write, rfl, makes, succeeds⟩ := exists_of_takes_writeMigration writes
  refine ⟨same, ⟨columns, indexes, foreignKeys, directories, write⟩, migration, ?_, converted, makes,
    succeeds⟩
  rw [List.append_nil]

/-! ### What a worker can ask for -/

theorem asks_readDump (path : String) (dump : Option String) :
    (readDump dump).Asks (Request.WritesNowhereBut path) := by
  cases dump with
  | none => exact .pure _
  | some dump =>
    obtain ⟨next, same, ends⟩ := Script.exists_readText_eq dump
    refine .bind ?_ fun _ => .pure _
    rw [same]
    exact .once trivial ends

theorem asks_convertFiles (path : String) :
    (convertFiles setup dumps).Asks (Request.WritesNowhereBut path) :=
  .andThen (asks_readDump path _) fun _ => .andThen (asks_readDump path _) fun _ =>
    .andThen (asks_readDump path _) fun _ => .pure _

theorem asks_writeMigration (directory table migration : String) (moment : Option Moment) :
    (writeMigration directory table migration moment).Asks
      (Request.WritesNowhereBut (migrationPath directory table moment)) :=
  .andThen (.bind ((Script.asks_makeFirstOf _).weaken fun _ h => h.writesNowhereBut _) fun _ =>
    .pure _) fun _ =>
  .andThen (.bind ⟨rfl, fun _ => .pure _⟩ fun _ => .pure _) fun _ => .pure _

/-- A worker changes no file but that of its table. -/
theorem asks_convertInto (directory : String) (moment : Option Moment) :
    (convertInto setup directory moment dumps).Asks
      (Request.WritesNowhereBut (migrationPath directory dumps.table moment)) :=
  .bind (.andThen (asks_convertFiles _) fun _ => asks_writeMigration ..) fun _ => .pure _

end TableMigration.Command
