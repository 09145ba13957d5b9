import TableMigration.Column
import TableMigration.Keyed

/-!
# Column conventions

Columns whose name and type have a schema method of their own: the mark of soft deletion, the
pair of time stamps, and the token that remembers a login.
-/

namespace TableMigration.Column

/-- Folds `deleted_at` if it is a time stamp. -/
def foldSoftDeletes : List Column → List Column :=
  Keyed.updateFirst field "deleted_at" fun column =>
    if column.method = "timestamp" then column.foldInto "softDeletes" else column

def hasMethod (columns : List Column) (field method : String) : Bool :=
  columns.any fun column => column.field == field && column.method == method

/-- Folds `created_at` and `updated_at` into one if both are time stamps. -/
def foldTimestamps (columns : List Column) : List Column :=
  if hasMethod columns "created_at" "timestamp" && hasMethod columns "updated_at" "timestamp" then
    (columns.filter (·.field != "updated_at"))
      |> Keyed.updateFirst field "created_at" fun column =>
        column.foldInto (if column.nullable then "nullableTimestamps" else "timestamps")
  else columns

/-- A nullable string of a hundred characters. -/
def isTokenColumn (column : Column) : Bool :=
  column.method == "string" && column.nullable && column.args == .scalar "100"

def foldRememberToken : List Column → List Column :=
  Keyed.updateFirst field "remember_token" fun column =>
    if column.isTokenColumn then column.foldInto "rememberToken" else column

def foldConventions (columns : List Column) : List Column :=
  foldRememberToken (foldTimestamps (foldSoftDeletes columns))

/-- The columns of a table from its rows, in order of first mention. The last row of a field
declares its column. -/
def listOfRows (rows : List Dump.ColumnRow) : List Column :=
  foldConventions (Keyed.ofList field (rows.map ofRow))

end TableMigration.Column
