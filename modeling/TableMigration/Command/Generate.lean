import TableMigration.Command.Setup
import TableMigration.Command.Usage
import TableMigration.Session

/-!
# Converting files

Converting the dumps of one table from files, and writing the migration.
-/

namespace TableMigration.Command

open File (Script)

/-- The text of a dump; a dump that is not given has no rows. -/
def readDump : Option String → Script (Except Failure String)
  | none => return .ok ""
  | some path => do return (← Script.readText path).mapError (Failure.readDump path)

structure TableDumps where
  table : String
  structureFile : String
  keysFile : Option String
  constraintsFile : Option String
deriving DecidableEq, Repr

/-- Converts the dumps of a table. All are read before the first is looked into. -/
def convertFiles (setup : Setup) (dumps : TableDumps) : Script (Except Failure String) :=
  ExceptT.run do
    let columns ← ExceptT.mk (readDump (some dumps.structureFile))
    let indexes ← ExceptT.mk (readDump dumps.keysFile)
    let foreignKeys ← ExceptT.mk (readDump dumps.constraintsFile)
    ExceptT.mk <| pure <|
      (migrationOf dumps.table columns indexes foreignKeys setup.template
        setup.config.output.indent).mapError (Failure.conversion dumps.table)

def writeFile (path migration : String) : Script (Except Failure Unit) := do
  return (← Script.writeText path migration).mapError (Failure.writeMigration path)

def migrationPath (directory table : String) (moment : Option Moment) : String :=
  File.Path.join directory (Naming.fileName table moment)

/-- Puts a migration into a directory under the name of its table, and returns the path. -/
def writeMigration (directory table migration : String) (moment : Option Moment) :
    Script (Except Failure String) :=
  ExceptT.run do
    ExceptT.mk do
      return (← Script.makeDirectories directory).mapError (Failure.makeOutputDirectory directory)
    let path := migrationPath directory table moment
    ExceptT.mk (writeFile path migration)
    return path

/-- The moment in file names, if the settings want one. -/
def Setup.moment (setup : Setup) (now : Moment) : Option Moment :=
  if setup.config.output.timestampPrefix then some now else none

def GenerateOptions.dumps (options : GenerateOptions) : TableDumps where
  table := options.table
  structureFile := options.structureFile
  keysFile := options.keysFile
  constraintsFile := options.constraintsFile

/-- Converts one table. Returns what is to be printed: the migration, if it is written to no
file. -/
def generate (setup : Setup) (now : Moment) (options : GenerateOptions) :
    Script (Except Failure String) :=
  ExceptT.run do
    let migration ← ExceptT.mk (convertFiles setup options.dumps)
    match options.output with
    | some path =>
      ExceptT.mk (writeFile path migration)
      return ""
    | none =>
      if options.write then
        let _ ← ExceptT.mk <|
          writeMigration setup.config.outputDirectory options.table migration (setup.moment now)
        return ""
      else return migration

end TableMigration.Command
