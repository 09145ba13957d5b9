import TableMigration.Column.Resolved
import TableMigration.Dump.Row

/-!
# Columns

A column of a table with the schema method that declares it.
-/

namespace TableMigration

structure Column where
  /-- The name in the dump, by which a column is found. -/
  field : String
  /-- The name in the migration; empty when the method takes no arguments. -/
  name : String
  rawType : String
  method : String
  args : ColumnArgs
  unsigned : Option Bool
  nullable : Bool
  defaultValue : Option String
  comment : String
deriving DecidableEq, Repr

namespace Column

/-- A comment on one line: without line ends, and trimmed. -/
def commentOf (text : String) : String :=
  String.ofList (Text.trim (text.toList.filter fun c => c != '\r' && c != '\n'))

/-- The column that a row declares. The default `NULL` means that there is none. -/
def ofRow (row : Dump.ColumnRow) : Column :=
  let resolved := ResolvedType.ofText row.type row.extra
  { field := row.field
    name := row.field
    rawType := row.type
    method := resolved.method
    args := resolved.args
    unsigned := resolved.unsigned
    nullable := row.null == "YES"
    defaultValue := if row.default = "NULL" then none else some row.default
    comment := commentOf row.comment }

/-- The column declared by a method that needs no arguments. -/
def foldInto (method : String) (column : Column) : Column :=
  { column with method, args := .none, defaultValue := none, nullable := false, name := "" }

end Column

end TableMigration
