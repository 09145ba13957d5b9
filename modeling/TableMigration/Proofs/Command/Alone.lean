import TableMigration.Proofs.Command.Worker

/-!
# Converting a table alone

What becomes of a table that is converted with nothing else going on (`run_convertInto`). Asking for the one
table on the command line comes to the same (`run_generate`).
-/

namespace TableMigration.File.Script

variable {α β ε : Type}

/-- A script that may fail goes on with what it came to. -/
theorem run_andThen (script : Script (Except ε α)) (f : α → ExceptT ε Script β) (tree : Tree) :
    (ExceptT.mk script >>= f).run.run tree =
      match script.run tree with
      | (.ok result, after) => (f result).run.run after
      | (.error failure, after) => (.error failure, after) := by
  change (script >>= _).run tree = _
  rw [run_bind]
  rcases script.run tree with ⟨failure | result, after⟩ <;> rfl

end TableMigration.File.Script

namespace TableMigration.Command

open File (Script Tree)

theorem run_readDump (dump : Option String) (tree : Tree) :
    (readDump dump).run tree = (((readDump dump).run tree).1, tree) := by
  cases dump with
  | none => rfl
  | some path =>
    have reads : ((Script.readText path).run tree).2 = tree := by
      simp only [Script.readText, Script.run, Tree.answer]
      rcases tree.read path with fault | content
      · rfl
      · dsimp only
        rcases String.fromUTF8? content with - | text <;> rfl
    refine Prod.ext rfl ?_
    rw [readDump, Script.run_bind]
    exact reads

theorem run_convertFiles (setup : Setup) (dumps : TableDumps) (tree : Tree) :
    (convertFiles setup dumps).run tree =
      (conversionOf setup dumps ((readDump (some dumps.structureFile)).run tree).1
        ((readDump dumps.keysFile).run tree).1 ((readDump dumps.constraintsFile).run tree).1,
        tree) := by
  have columns := run_readDump (some dumps.structureFile) tree
  have indexes := run_readDump dumps.keysFile tree
  have foreignKeys := run_readDump dumps.constraintsFile tree
  rw [convertFiles, Script.run_andThen, columns]
  rcases ((readDump (some dumps.structureFile)).run tree).1 with failure | columns
  · rfl
  dsimp only
  rw [Script.run_andThen, indexes]
  rcases ((readDump dumps.keysFile).run tree).1 with failure | indexes
  · rfl
  dsimp only
  rw [Script.run_andThen, foreignKeys]
  rcases ((readDump dumps.constraintsFile).run tree).1 with failure | foreignKeys <;> rfl

/-- What the dumps of a table are converted to. -/
def conversion (setup : Setup) (tree : Tree) (dumps : TableDumps) : Except Failure String :=
  ((convertFiles setup dumps).run tree).1

/-- What becomes of a table that is converted alone. -/
def alone (setup : Setup) (directory : String) (moment : Option Moment) (tree : Tree)
    (dumps : TableDumps) : TableResult :=
  ((convertInto setup directory moment dumps).run tree).1

section

variable (setup : Setup) (directory : String) (moment : Option Moment) (dumps : TableDumps)
  (tree : Tree)

theorem run_writeFile (path migration : String) :
    (writeFile path migration).run tree =
      ((tree.answer (.write path migration)).1.mapError (.writeMigration path),
        (tree.answer (.write path migration)).2) := rfl

theorem run_writeMigration (table migration : String) :
    (writeMigration directory table migration moment).run tree =
      match (Script.makeDirectories directory).run tree with
      | (.error fault, made) => (.error (.makeOutputDirectory directory fault), made)
      | (.ok (), made) =>
        let path := migrationPath directory table moment
        let (written, after) := made.answer (.write path migration)
        ((written.mapError (.writeMigration path)).map fun _ => path, after) := by
  rw [writeMigration, Script.run_andThen, Script.run_bind]
  rcases (Script.makeDirectories directory).run tree with ⟨fault | ⟨⟩, made⟩
  · rfl
  dsimp only [Script.run_pure, Except.mapError]
  rw [Script.run_andThen, run_writeFile]
  rcases made.answer (.write (migrationPath directory table moment) migration) with
    ⟨fault | ⟨⟩, after⟩ <;> rfl

theorem run_convertInto :
    (convertInto setup directory moment dumps).run tree =
      match conversion setup tree dumps with
      | .error failure => (⟨dumps.table, .error failure⟩, tree)
      | .ok migration =>
        let (outcome, after) := (writeMigration directory dumps.table migration moment).run tree
        (⟨dumps.table, outcome⟩, after) := by
  rw [convertInto, Script.run_bind, Script.run_andThen, conversion]
  rw [run_convertFiles]
  rcases conversionOf setup dumps _ _ _ with failure | migration <;> rfl

def Setup.into (setup : Setup) (directory : String) : Setup :=
  { setup with config := { setup.config with output := { setup.config.output with directory } } }

/-- The command line that converts one table and writes its migration. -/
def TableDumps.writing (dumps : TableDumps) : GenerateOptions where
  table := dumps.table
  structureFile := dumps.structureFile
  keysFile := dumps.keysFile
  constraintsFile := dumps.constraintsFile
  output := none
  write := true

theorem run_generate (now : Moment) :
    (generate (setup.into directory) now dumps.writing).run tree =
      ((alone setup directory (setup.moment now) tree dumps).outcome.map fun _ => "",
        ((convertInto setup directory (setup.moment now) dumps).run tree).2) := by
  have converts : convertFiles (setup.into directory) dumps.writing.dumps =
      convertFiles setup dumps := rfl
  have writes : ∀ migration, writeMigration (setup.into directory).config.outputDirectory
      dumps.writing.table migration ((setup.into directory).moment now) =
        writeMigration directory dumps.table migration (setup.moment now) := fun _ => rfl
  rw [alone, run_convertInto, generate, Script.run_andThen, converts, conversion, run_convertFiles]
  rcases conversionOf setup dumps _ _ _ with failure | migration
  · rfl
  · dsimp only
    simp only [writes]
    rw [TableDumps.writing]
    dsimp only
    rw [if_pos rfl, Script.run_andThen]
    rcases (writeMigration directory dumps.table migration (setup.moment now)).run tree with
      ⟨failure | path, after⟩ <;> rfl

end

end TableMigration.Command
