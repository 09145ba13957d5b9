import TableMigration.Calendar
import TableMigration.Text.Basic
import TableMigration.Text.Case

/-!
# Names

The names that a table gives to its migration: a class and a file.
-/

namespace TableMigration.Naming

/-- A mark between the words of a table name, besides blanks. -/
def isJoint (c : Char) : Bool :=
  c == '-' || c == '_'

/-- A table name as one word, each of its words with a capital. -/
def studly (table : String) : String :=
  let spaced := table.toList.map fun c => if isJoint c then ' ' else c
  String.ofList ((Text.words spaced).flatMap Text.capitalize)

def className (table : String) : String :=
  "Create" ++ studly table ++ "Table"

/-- The file of the migration that creates a table, with a time stamp before it if there is
one. -/
def fileName (table : String) (moment : Option Moment) : String :=
  let base := "create_" ++ Text.lower table ++ "_table.php"
  match moment with
  | some m => m.stamp ++ "_" ++ base
  | none => base

end TableMigration.Naming
