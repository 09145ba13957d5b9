import Std.Time.Zoned
import TableMigration.Command.Program

/-!
# Running the program

Answers the requests of a script from the file system, and runs the program with the arguments, the
environment and the clock of the process.
-/

namespace TableMigration.Main

open File (Fault Kind Request Script)

def errorParts : IO.Error → Nat × String
  | .alreadyExists _ code details | .noFileOrDirectory _ code details
  | .invalidArgument _ code details | .permissionDenied _ code details
  | .resourceExhausted _ code details | .inappropriateType _ code details
  | .noSuchThing _ code details | .interrupted _ code details
  | .otherError code details | .resourceBusy code details | .resourceVanished code details
  | .unsupportedOperation code details | .hardwareFault code details
  | .unsatisfiedConstraints code details | .illegalOperation code details
  | .protocolError code details | .timeExpired code details => (code.toNat, details)
  | .unexpectedEof => (0, "unexpected end of file")
  | .userError message => (0, message)

/-- The fault that an error of the operating system stands for. Some calls give its number with a
minus sign, in 32 bits. -/
def faultOf (error : IO.Error) : Fault :=
  let (code, reason) := errorParts error
  match if code < 0x80000000 then code else 0x100000000 - code with
  | 2 => .notFound
  | 17 => .alreadyExists
  | 20 => .notADirectory
  | 21 => .isADirectory
  | 36 => .nameTooLong
  | _ => .other code reason

def attempt {α : Type} (action : IO α) : IO (Except Fault α) := do
  try
    return .ok (← action)
  catch error =>
    return .error (faultOf error)

/-- A path of the file system, which has no file name below it. -/
def onDisk (path : String) : IO.FS.DirEntry :=
  { root := path, fileName := "" }

def kindOf (metadata : IO.FS.Metadata) : Kind :=
  if metadata.type == .dir then .directory else .file

/-- The entries of a directory by name; a link is no directory. -/
def listEntries (path : String) : IO (List (String × Kind)) := do
  match kindOf (← (onDisk path).root.metadata) with
  | .file => return []
  | .directory =>
    let entries ← (onDisk path).root.readDir
    let kinds ← entries.toList.mapM fun entry => do
      return (entry.fileName, kindOf (← entry.path.symlinkMetadata))
    return Sorting.sort (fun a b => a.1 < b.1) kinds

/-- Puts a text at the end of a file, which is made if it is missing. -/
def appendFile (path text : String) : IO Unit :=
  IO.FS.withFile path .append fun handle => handle.putStr text

def answer : (request : Request) → IO request.Answer
  | .status path => do
    match ← attempt (onDisk path).root.metadata with
    | .ok metadata => return some (kindOf metadata)
    | .error _ => return none
  | .read path => attempt (IO.FS.readBinFile path)
  | .write path text => attempt (IO.FS.writeFile path text)
  | .append path text => attempt (appendFile path text)
  | .makeDirectory path => attempt (IO.FS.createDir path)
  | .list path => attempt (listEntries path)

def perform {α : Type} : Script α → IO α
  | .done result => return result
  | .ask request next => do perform (next (← answer request))

/-- The moment on the clock of the place where the program runs. -/
def localMoment : IO Moment := do
  let now ← Std.Time.PlainDateTime.now
  return {
    year := now.year
    month := now.month.toNat
    day := now.day.toNat
    hour := now.hour.toNat
    minute := now.minute.toNat
    second := now.second.toNat }

end TableMigration.Main

def main (words : List String) : IO UInt32 := do
  let now ← TableMigration.Main.localMoment
  let logFile ← IO.getEnv "MIGRATION_LOG_FILE"
  -- The greeting is no error: it goes to the terminal, and only if nothing less was asked for.
  if logFile.isNone && (← IO.getEnv "RUST_LOG").isNone then
    IO.eprint (TableMigration.Command.greeting words)
  let ending ← TableMigration.Main.perform (TableMigration.Command.run now logFile words)
  IO.print ending.output
  IO.eprint ending.errors
  return ending.exit.toUInt32
