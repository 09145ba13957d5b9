import TableMigration.File.Fault
import TableMigration.File.Path
import TableMigration.Keyed
import TableMigration.Sorting

/-!
# File trees

Files and directories by their place under the root. A path is followed one step at a time, and
each step but the last has to end in a directory.
-/

namespace TableMigration.File

inductive Entry where
  | file (content : ByteArray)
  | directory

inductive Kind where
  | file
  | directory
deriving DecidableEq, Repr

def Entry.kind : Entry → Kind
  | .file _ => .file
  | .directory => .directory

/-- The names on the way down from the root. -/
abbrev Place := List String

/-- Files and directories. The root is always there. -/
structure Tree where
  entries : List (Place × Entry)
  workingDirectory : Place

/-- Where a new entry would go. -/
inductive Target where
  /-- The path names a directory that is there already. -/
  | directory
  | entry (parent : Place) (name : String)

namespace Tree

def get? (tree : Tree) (place : Place) : Option Entry :=
  if place = [] then some .directory else tree.entries.lookup place

def put (tree : Tree) (place : Place) (entry : Entry) : Tree :=
  { tree with entries := Keyed.put (·.1) (place, entry) tree.entries }

/-- The longest name that an entry can have, in bytes. -/
def maxNameSize : Nat := 255

/-- The longest path that can be followed, in bytes. -/
def maxPathSize : Nat := 4095

def step (tree : Tree) (place : Place) (name : String) : Except Fault Place :=
  match tree.get? place with
  | some .directory =>
    if name = "." then .ok place
    else if name = ".." then .ok place.dropLast
    else if maxNameSize < name.utf8ByteSize then .error .nameTooLong
    else if (tree.get? (place ++ [name])).isSome then .ok (place ++ [name])
    else .error .notFound
  | _ => .error .notADirectory

def walk (tree : Tree) : Place → List String → Except Fault Place
  | place, [] => .ok place
  | place, name :: rest => (tree.step place name).bind fun next => tree.walk next rest

/-- A path that can be followed at all. -/
def checkPath (path : String) : Except Fault Unit :=
  if path.toList.any (·.toNat == 0) then .error .nulInPath
  else if path = "" then .error .notFound
  else if maxPathSize < path.utf8ByteSize then .error .nameTooLong
  else .ok ()

/-- The place that a path starts from. -/
def startOf (tree : Tree) (path : String) : Place :=
  if Path.isAbsolute path then [] else tree.workingDirectory

/-- The entry at the end of a path. -/
def find (tree : Tree) (path : String) : Except Fault (Place × Entry) := do
  checkPath path
  let place ← tree.walk (tree.startOf path) (Path.steps path)
  match tree.get? place with
  | none => .error .notFound
  | some (.file content) =>
    if Path.endsInSlash path then .error .notADirectory else .ok (place, .file content)
  | some .directory => .ok (place, .directory)

/-- Where the entry at the end of a path would go. -/
def target (tree : Tree) (path : String) : Except Fault Target := do
  checkPath path
  let steps := Path.steps path
  match steps.getLast? with
  | none => .ok .directory
  | some name =>
    let parent ← tree.walk (tree.startOf path) steps.dropLast
    if name = "." ∨ name = ".." then
      let _ ← tree.step parent name
      .ok .directory
    else
      match tree.get? parent with
      | some .directory => .ok (.entry parent name)
      | _ => .error .notADirectory

def status (tree : Tree) (path : String) : Option Kind :=
  match tree.find path with
  | .ok (_, entry) => some entry.kind
  | .error _ => none

def read (tree : Tree) (path : String) : Except Fault ByteArray := do
  match ← tree.find path with
  | (_, .file content) => .ok content
  | (_, .directory) => .error .isADirectory

/-- Changes the content of a file, which is empty if it is new. -/
def change (tree : Tree) (path : String) (edit : ByteArray → ByteArray) : Except Fault Tree := do
  match ← tree.target path with
  | .directory => .error .isADirectory
  | .entry parent name =>
    let place := parent ++ [name]
    if Path.endsInSlash path then .error .isADirectory
    else if maxNameSize < name.utf8ByteSize then .error .nameTooLong
    else
      match tree.get? place with
      | some .directory => .error .isADirectory
      | some (.file content) => .ok (tree.put place (.file (edit content)))
      | none => .ok (tree.put place (.file (edit ByteArray.empty)))

def makeDirectory (tree : Tree) (path : String) : Except Fault Tree := do
  match ← tree.target path with
  | .directory => .error .alreadyExists
  | .entry parent name =>
    let place := parent ++ [name]
    if maxNameSize < name.utf8ByteSize then .error .nameTooLong
    else if (tree.get? place).isSome then .error .alreadyExists
    else .ok (tree.put place .directory)

/-- The entries directly inside a place, by name. -/
def children (tree : Tree) (place : Place) : List (String × Kind) :=
  Sorting.sort (fun a b => a.1 < b.1) <|
    tree.entries.filterMap fun (inner, entry) =>
      match inner.getLast? with
      | some name => if inner.dropLast = place then some (name, entry.kind) else none
      | none => none

/-- The entries directly inside the directory at the end of a path; a file has none. -/
def list (tree : Tree) (path : String) : Except Fault (List (String × Kind)) := do
  match ← tree.find path with
  | (place, .directory) => .ok (tree.children place)
  | (_, .file _) => .ok []

end Tree

end TableMigration.File
