import TableMigration.Column

/-!
# Indexes

The indexes of a table, put together from one row a column. A primary key over a single counting
column is left out, since the method of that column declares it.
-/

namespace TableMigration

structure Index where
  name : String
  unique : Bool
  columns : List String
deriving DecidableEq, Repr

namespace Index

/-- The name that the server reserves for the primary key. -/
def primaryName : String := "PRIMARY"

/-- An index whose columns are still being gathered, in order of position. -/
structure Group where
  name : String
  unique : Bool
  columns : List (Nat × String)

/-- Puts a column at its position, over one that is there. -/
def placeColumn (position : Nat) (column : String) : List (Nat × String) → List (Nat × String)
  | [] => [(position, column)]
  | placed :: rest =>
    if position < placed.1 then (position, column) :: placed :: rest
    else if position = placed.1 then (position, column) :: rest
    else placed :: placeColumn position column rest

/-- A flag of the dump that is blank or zero. -/
def isUnset (flag : String) : Bool :=
  let text := Text.trim flag.toList
  text.isEmpty || text == ['0']

/-- Adds a row to the index of its name. The first row of a name decides whether the index is
unique. -/
def addRow (row : Dump.IndexRow) : List Group → List Group
  | [] =>
    [{ name := row.name
       unique := isUnset row.nonUnique
       columns := [(row.position, row.column)] }]
  | group :: rest =>
    if group.name = row.name then
      { group with columns := placeColumn row.position row.column group.columns } :: rest
    else group :: addRow row rest

def ofGroup (group : Group) : Index where
  name := group.name
  unique := group.unique
  columns := group.columns.map (·.2)

/-- Every index that the rows mention, in order of first mention. -/
def gather (rows : List Dump.IndexRow) : List Index :=
  (rows.foldl (fun groups row => addRow row groups) []).map ofGroup

/-- The primary key is one column that counts up. -/
def primaryIsImplicit (indexes : List Index) (columns : List Column) : Bool :=
  match indexes.find? (·.name == primaryName) with
  | some { columns := [name], .. } =>
    match columns.find? (·.field == name) with
    | some column => Text.contains (Text.lower column.method) "increments"
    | none => false
  | _ => false

/-- The indexes that a migration declares for a table with these columns. -/
def listOfRows (rows : List Dump.IndexRow) (columns : List Column) : List Index :=
  let indexes := gather rows
  if primaryIsImplicit indexes columns then indexes.filter (·.name != primaryName) else indexes

end Index

end TableMigration
