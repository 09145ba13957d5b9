import TableMigration.Command.Generate

/-!
# Converting directories

Every directory directly inside a directory of dumps is a table, if it holds a dump of columns.
A table that fails does not keep the others from being converted.
-/

namespace TableMigration.Command

open File (Script)

def present? (path : String) : Script (Option String) := do
  return if ← Script.exists? path then some path else none

def dumpsIn? (config : Config) (directory table : String) : Script (Option TableDumps) := do
  let inside := File.Path.join (File.Path.join directory table)
  match ← present? (inside config.dump.structureFile) with
  | none => return none
  | some structureFile =>
    let keysFile ← present? (inside config.dump.keysFile)
    let constraintsFile ← present? (inside config.dump.constraintsFile)
    return some { table, structureFile, keysFile, constraintsFile }

def dumpsAmong (config : Config) (directory : String) :
    List (String × File.Kind) → Script (List TableDumps)
  | [] => return []
  | (name, kind) :: rest => do
    let found ← if kind = .directory then dumpsIn? config directory name else pure none
    return found.toList ++ (← dumpsAmong config directory rest)

def findTables (config : Config) (directory : String) :
    Script (Except Failure (List TableDumps)) := do
  match ← Script.list directory with
  | .error fault => return .error (.listDumps directory fault)
  | .ok entries => return .ok (← dumpsAmong config directory entries)

/-- What became of a table: the path of its migration, or why there is none. -/
structure TableResult where
  table : String
  outcome : Except Failure String

def convertInto (setup : Setup) (directory : String) (moment : Option Moment)
    (dumps : TableDumps) : Script TableResult := do
  let outcome ← ExceptT.run do
    let migration ← ExceptT.mk (convertFiles setup dumps)
    ExceptT.mk (writeMigration directory dumps.table migration moment)
  return { table := dumps.table, outcome }

structure Report where
  /-- The migrations that were written, in order. -/
  written : List String
  /-- The tables that failed, in order, and why. -/
  failed : List (String × String)
deriving DecidableEq, Repr

def TableResult.written? (result : TableResult) : Option String :=
  match result.outcome with
  | .ok path => some path
  | .error _ => none

def TableResult.failed? (result : TableResult) : Option (String × String) :=
  match result.outcome with
  | .ok _ => none
  | .error failure => some (result.table, failure.message)

/-- Failures go by table, then by reason. -/
def failureLess (a b : String × String) : Bool :=
  a.1 < b.1 || (a.1 == b.1 && a.2 < b.2)

/-- The report on results, whatever order they come in. -/
def Report.ofResults (results : List TableResult) : Report where
  written := Sorting.sort (fun a b => a < b) (results.filterMap TableResult.written?)
  failed := Sorting.sort failureLess (results.filterMap TableResult.failed?)

/-- A report with a failure in it is a failure. -/
def Report.verdict (report : Report) : Except Failure Unit :=
  if report.failed.isEmpty then .ok () else .error (.tables report.failed.length)

/-- Converts tables one after another. -/
def convertEach (setup : Setup) (directory : String) (moment : Option Moment) :
    List TableDumps → Script (List TableResult)
  | [] => return []
  | dumps :: rest => do
    let result ← convertInto setup directory moment dumps
    return result :: (← convertEach setup directory moment rest)

/-- Converts every table of a directory of dumps. -/
def batch (setup : Setup) (now : Moment) (directory outputDirectory : String) :
    Script (Except Failure Report) := do
  match ← findTables setup.config directory with
  | .error failure => return .error failure
  | .ok tables =>
    return .ok (.ofResults (← convertEach setup outputDirectory (setup.moment now) tables))

end TableMigration.Command
