/-!
# Paths

Paths are texts with slashes between their steps. Repeated slashes and steps that stay where they
are do not count.
-/

namespace TableMigration.File.Path

def isAbsolute (path : String) : Bool :=
  path.toList.head? == some '/'

def endsInSlash (path : String) : Bool :=
  path.toList.getLast? == some '/'

/-- The path of `name` as seen from `base`. -/
def join (base name : String) : String :=
  if isAbsolute name || base == "" then name
  else if endsInSlash base then base ++ name
  else base ++ "/" ++ name

/-- What stands between the slashes. -/
def steps (path : String) : List String :=
  ((path.toList.splitOn '/').filter (!·.isEmpty)).map String.ofList

/-- The steps that lead somewhere; a path may start by staying where it is. -/
def movingSteps (path : String) : List String :=
  match steps path with
  | [] => []
  | first :: rest =>
    (if first == "." && isAbsolute path then [] else [first]) ++ rest.filter (· != ".")

def ofSteps (absolute : Bool) (steps : List String) : String :=
  (if absolute then "/" else "") ++ "/".intercalate steps

/-- The paths that lead to the last of some steps, nearest first, given the steps last first. -/
def leadingTo (absolute : Bool) : List String → List String
  | [] => if absolute then ["/"] else []
  | step :: before =>
    ofSteps absolute (step :: before).reverse :: leadingTo absolute before

/-- The path and the directories that it leads through, nearest first. -/
def ancestors (path : String) : List String :=
  if path == "" then []
  else path :: (leadingTo (isAbsolute path) (movingSteps path).reverse).drop 1

end TableMigration.File.Path
