import TableMigration.File.Tree

/-!
# File scripts

A script asks for things to be done with files, one after another, and goes on with the answers.
`Script.run` answers it from a file tree; the program answers it from the file system.
-/

namespace TableMigration.File

inductive Request where
  | status (path : String)
  | read (path : String)
  | write (path : String) (text : String)
  | append (path : String) (text : String)
  | makeDirectory (path : String)
  | list (path : String)

abbrev Request.Answer : Request → Type
  | .status _ => Option Kind
  | .read _ => Except Fault ByteArray
  | .write _ _ => Except Fault Unit
  | .append _ _ => Except Fault Unit
  | .makeDirectory _ => Except Fault Unit
  | .list _ => Except Fault (List (String × Kind))

/-- A change of a tree, or the tree as it was and the fault. -/
def Tree.keepOnFault (tree : Tree) : Except Fault Tree → Except Fault Unit × Tree
  | .ok changed => (.ok (), changed)
  | .error fault => (.error fault, tree)

def Tree.answer (tree : Tree) : (request : Request) → request.Answer × Tree
  | .status path => (tree.status path, tree)
  | .read path => (tree.read path, tree)
  | .write path text => tree.keepOnFault (tree.change path fun _ => text.toUTF8)
  | .append path text => tree.keepOnFault (tree.change path (· ++ text.toUTF8))
  | .makeDirectory path => tree.keepOnFault (tree.makeDirectory path)
  | .list path => (tree.list path, tree)

/-- Requests one after another, each depending on the answers before it. -/
inductive Script (α : Type) where
  | done (result : α)
  | ask (request : Request) (next : request.Answer → Script α)

namespace Script

variable {α β : Type}

def bind : Script α → (α → Script β) → Script β
  | .done result, f => f result
  | .ask request next, f => .ask request fun answer => (next answer).bind f

instance : Monad Script where
  pure := .done
  bind := bind

def run : Script α → Tree → α × Tree
  | .done result, tree => (result, tree)
  | .ask request next, tree =>
    let (answer, tree) := tree.answer request
    (next answer).run tree

@[simp]
theorem run_pure (a : α) (tree : Tree) : (pure a : Script α).run tree = (a, tree) := rfl

theorem run_bind (script : Script α) (f : α → Script β) (tree : Tree) :
    (script >>= f).run tree = (f (script.run tree).1).run (script.run tree).2 := by
  change (script.bind f).run tree = _
  induction script generalizing tree with
  | done => rfl
  | ask request next ih => exact ih _ _

/-! ### Single requests -/

def status (path : String) : Script (Option Kind) :=
  .ask (.status path) .done

def exists? (path : String) : Script Bool := do
  return (← status path).isSome

def isDirectory (path : String) : Script Bool := do
  return (← status path) == some .directory

def readText (path : String) : Script (Except Fault String) :=
  .ask (.read path) fun
    | .error fault => .done (.error fault)
    | .ok content =>
      match String.fromUTF8? content with
      | some text => .done (.ok text)
      | none => .done (.error .notText)

def writeText (path text : String) : Script (Except Fault Unit) :=
  .ask (.write path text) .done

def appendText (path text : String) : Script (Except Fault Unit) :=
  .ask (.append path text) .done

def makeDirectory (path : String) : Script (Except Fault Unit) :=
  .ask (.makeDirectory path) .done

def list (path : String) : Script (Except Fault (List (String × Kind))) :=
  .ask (.list path) .done

/-! ### Directories with those above them -/

/-- A fault in making a directory, unless it is there after all. -/
def forgiveDirectory (path : String) : Except Fault Unit → Script (Except Fault Unit)
  | .ok () => return .ok ()
  | .error fault => do
    if ← isDirectory path then return .ok () else return .error fault

/-- Makes the first of some directories, and those after it where they are missing. -/
def makeFirstOf : List String → Script (Except Fault Unit)
  | [] => return .ok ()
  | path :: parents => do
    match ← makeDirectory path with
    | .error .notFound =>
      match ← makeFirstOf parents with
      | .ok () => forgiveDirectory path (← makeDirectory path)
      | .error fault => return .error fault
    | result => forgiveDirectory path result

/-- Makes a directory and those above it where they are missing. -/
def makeDirectories (path : String) : Script (Except Fault Unit) :=
  makeFirstOf (Path.ancestors path)

end Script

end TableMigration.File
