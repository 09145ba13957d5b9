import TableMigration.Command.Batch

/-!
# The program

A whole run: read the command line, load the settings, obey, and report.
-/

namespace TableMigration.Command

open File (Script)

def version : String := "0.1.0"

def coreVersion : String := "0.1.0"

def banner : String :=
  "Laravel Migration Exporter v" ++ version ++ " (core v" ++ coreVersion ++ ")"

def versionText : String := "migration-cli " ++ version ++ "\n"

/-- What a run says of itself before it starts, if it is to be verbose. -/
def greeting (words : List String) : String :=
  match Invocation.ofWords words with
  | .ok invocation => if invocation.verbose then "DEBUG " ++ banner ++ "\n" else ""
  | .error _ => ""

/-- What came of a command: what it prints, the tables that failed on the way, and whether it
failed itself. -/
structure Outcome where
  printed : String
  failedTables : List (String × String)
  failure : Option Failure
  /-- Set for `init`: whether settings were written. -/
  wrote : Option Bool

def Outcome.success (printed : String) : Outcome where
  printed := printed
  failedTables := []
  failure := none
  wrote := none

def Outcome.ofFailure (failure : Failure) : Outcome where
  printed := ""
  failedTables := []
  failure := some failure
  wrote := none

def runInit (configFile : String) (force : Bool) : Script Outcome := do
  match ← writeDefaults configFile force with
  | .ok wrote => return { Outcome.success "" with wrote := some wrote }
  | .error failure => return .ofFailure failure

def runGenerate (setup : Setup) (now : Moment) (options : GenerateOptions) : Script Outcome := do
  match ← generate setup now options with
  | .ok printed => return .success printed
  | .error failure => return .ofFailure failure

def runBatch (setup : Setup) (now : Moment) (directory : String) (outputDirectory : Option String) :
    Script Outcome := do
  match
    ← batch setup now directory (outputDirectory.getD setup.config.outputDirectory) with
  | .error failure => return .ofFailure failure
  | .ok report =>
    match report.verdict with
    | .ok () => return .success ""
    | .error failure => return { Outcome.ofFailure failure with failedTables := report.failed }

/-- How a failure is announced, by the part of the run that failed. -/
inductive Stage where
  | init
  | setup
  | work
deriving DecidableEq, Repr

def Stage.label : Stage → String
  | .init => "❌ 初始化失败: "
  | .setup => "❌ 应用初始化失败: "
  | .work => "❌ 操作失败: "

/-- Obeys a command line, and tells how far the run came. -/
def obey (now : Moment) (invocation : Invocation) : Script (Stage × Outcome) := do
  match invocation.job with
  | .init force => return (.init, ← runInit invocation.configFile force)
  | .generate options =>
    match ← loadSetup invocation.configFile with
    | .error failure => return (.setup, .ofFailure failure)
    | .ok setup => return (.work, ← runGenerate setup now options)
  | .batch directory outputDirectory =>
    match ← loadSetup invocation.configFile with
    | .error failure => return (.setup, .ofFailure failure)
    | .ok setup => return (.work, ← runBatch setup now directory outputDirectory)

/-! ### Reports -/

/-- A control character as a report shows it, so that it does not reach the terminal. -/
def showControl (c : Char) : List Char :=
  let code := c.toNat
  let digits := Nat.toDigits 16 code
  if code = 0x1B ∨ code = 0x7F then ['\\', 'x'] ++ digits
  else if code = 0x07 ∨ code = 0x08 ∨ code = 0x0C then ['\\', 'x', '0'] ++ digits
  else if 0x80 ≤ code ∧ code ≤ 0x9F then
    "\\u\x7b".toList ++ digits ++ "\x7d".toList
  else [c]

def errorLine (message : String) : String :=
  "ERROR " ++ String.ofList (message.toList.flatMap showControl) ++ "\n"

def errorLines (stage : Stage) (outcome : Outcome) : List String :=
  outcome.failedTables.map (fun (table, message) =>
    errorLine ("   ❌ " ++ table ++ ": " ++ message)) ++
  match outcome.failure with
  | some failure => [errorLine (stage.label ++ failure.message)]
  | none => []

/-- How a run ends: the exit code, and what goes to the two outputs. -/
structure Ending where
  exit : Nat
  output : String
  errors : String
deriving DecidableEq, Repr

/-- Puts error lines where they belong: into the log file, or, if it cannot be opened, after a
notice of that. -/
def openLog : Option String → Script (Option String × String)
  | none => return (none, "")
  | some path => do
    match ← Script.appendText path "" with
    | .ok () => return (some path, "")
    | .error fault =>
      return (none, "无法打开日志文件 " ++ path ++ ": " ++ fault.message ++ "，改为输出到终端\n")

/-- How a command line that is not obeyed ends. A question is answered, anything else is a usage
error. -/
def Refusal.ending : Refusal → Ending
  | .help => { exit := 0, output := "", errors := "" }
  | .version => { exit := 0, output := versionText, errors := "" }
  | _ => { exit := 2, output := "", errors := "" }

/-- Runs the program on a command line, without the name of the program. -/
def run (now : Moment) (logFile : Option String) (words : List String) : Script Ending := do
  match Invocation.ofWords words with
  | .error refusal => return refusal.ending
  | .ok invocation =>
    let (log, notice) ← openLog logFile
    let (stage, outcome) ← obey now invocation
    let lines := String.join (errorLines stage outcome)
    let exit := if outcome.failure.isSome then 1 else 0
    match log with
    | none => return { exit, output := outcome.printed, errors := notice ++ lines }
    | some path =>
      let _ ← Script.appendText path lines
      return { exit, output := outcome.printed, errors := "" }

end TableMigration.Command
