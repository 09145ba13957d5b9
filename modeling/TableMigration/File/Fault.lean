/-!
# File faults

Why something could not be done with a file, in the words of the operating system.
-/

namespace TableMigration.File

inductive Fault where
  | notFound
  | alreadyExists
  | notADirectory
  | isADirectory
  | nameTooLong
  | nulInPath
  | notText
  /-- Any other refusal of the operating system. -/
  | other (code : Nat) (reason : String)
deriving DecidableEq, Repr

def systemMessage (reason : String) (code : Nat) : String :=
  reason ++ " (os error " ++ toString code ++ ")"

def Fault.message : Fault → String
  | .notFound => systemMessage "No such file or directory" 2
  | .alreadyExists => systemMessage "File exists" 17
  | .notADirectory => systemMessage "Not a directory" 20
  | .isADirectory => systemMessage "Is a directory" 21
  | .nameTooLong => systemMessage "File name too long" 36
  | .nulInPath => "file name contained an unexpected NUL byte"
  | .notText => "stream did not contain valid UTF-8"
  | .other code reason => systemMessage reason code

end TableMigration.File
