import TableMigration.Command.Line

/-!
# Usage

The commands of the program and their switches.
-/

namespace TableMigration.Command

/-- What to convert, and where to put the migration. -/
structure GenerateOptions where
  table : String
  structureFile : String
  keysFile : Option String
  constraintsFile : Option String
  output : Option String
  /-- Write to the configured directory. -/
  write : Bool
deriving DecidableEq, Repr

inductive Job where
  | init (force : Bool)
  | generate (options : GenerateOptions)
  | batch (directory : String) (outputDirectory : Option String)
deriving DecidableEq, Repr

structure Invocation where
  configFile : String
  verbose : Bool
  job : Job
deriving DecidableEq, Repr

/-! ### Forms -/

def helpSwitch : Switch := ⟨"help", some 'h', .help⟩

/-- What stands before the command. -/
def programForm : Form where
  switches := [
    ⟨"config", some 'c', .path⟩, ⟨"verbose", some 'v', .flag⟩, helpSwitch,
    ⟨"version", some 'V', .version⟩]
  operand := none
  commands := ["init", "generate", "batch", "help"]

def initForm : Form where
  switches := [⟨"force", none, .flag⟩, helpSwitch]
  operand := none
  commands := []

def generateForm : Form where
  switches := [
    ⟨"table", some 't', .text⟩, ⟨"structure", some 's', .path⟩, ⟨"keys", some 'k', .path⟩,
    ⟨"constraints", none, .path⟩, ⟨"output", some 'o', .path⟩, ⟨"write", some 'w', .flag⟩,
    helpSwitch]
  operand := none
  commands := []

def batchForm : Form where
  switches := [⟨"out-dir", none, .path⟩, helpSwitch]
  operand := some ⟨"dir", none, .path⟩
  commands := []

/-! ### Reading -/

/-- Reads the words of a command that no other command follows. -/
def readWords (form : Form) (words : List String) : Except Refusal Reading := do
  let (reading, _) ← Reading.empty.addWords form false words
  reading.settle

def readInit (words : List String) : Except Refusal Job := do
  let reading ← readWords initForm words
  return .init (reading.has "force")

/-- Reads what stands after `generate`. A file and the configured directory exclude each other;
the table and the dump of its columns are needed. -/
def readGenerate (words : List String) : Except Refusal Job := do
  let reading ← readWords generateForm words
  if reading.has "output" && reading.has "write" then throw .conflict
  match reading.value? "table", reading.value? "structure" with
  | some table, some structureFile =>
    return .generate
      { table
        structureFile
        keysFile := reading.value? "keys"
        constraintsFile := reading.value? "constraints"
        output := reading.value? "output"
        write := reading.has "write" }
  | _, _ => throw .missingArgument

def readBatch (words : List String) : Except Refusal Job := do
  let reading ← readWords batchForm words
  match reading.value? "dir" with
  | some directory => return .batch directory (reading.value? "out-dir")
  | none => throw .missingArgument

/-- Answers `help`, which may name one command. -/
def readHelp : List String → Except Refusal Job
  | [] => throw .help
  | [name] => if programForm.commands.contains name then throw .help else throw .unknownCommand
  | _ => throw .unknownCommand

def readJob (name : String) (words : List String) : Except Refusal Job :=
  if name = "init" then readInit words
  else if name = "generate" then readGenerate words
  else if name = "batch" then readBatch words
  else readHelp words

/-- The settings file that is looked for when none is named. -/
def defaultConfigFile : String := "migration.toml"

/-- Reads a command line, without the name of the program. What is wrong after the command is found
before a value that is pending in front of it. -/
def Invocation.ofWords (words : List String) : Except Refusal Invocation := do
  let (reading, rest) ← Reading.empty.addWords programForm false words
  match rest with
  | none =>
    let reading ← reading.settle
    if reading.given.isEmpty then throw .nothingAsked else throw .noCommand
  | some (name, words) =>
    let job ← readJob name words
    let reading ← reading.settle
    return {
      configFile := (reading.value? "config").getD defaultConfigFile
      verbose := reading.has "verbose"
      job }

end TableMigration.Command
