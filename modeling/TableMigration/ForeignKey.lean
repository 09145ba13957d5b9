import TableMigration.Index
import TableMigration.Keyed

/-!
# Foreign keys

The foreign keys of a table. Each stands for the index of its name, which the server keeps for it.
-/

namespace TableMigration

structure ForeignKey where
  name : String
  localColumn : String
  referencedTable : String
  referencedColumn : String
  onUpdate : String
  onDelete : String
deriving DecidableEq, Repr

namespace ForeignKey

def ofRow (row : Dump.ForeignKeyRow) : ForeignKey where
  name := row.name
  localColumn := row.column
  referencedTable := row.referencedTable
  referencedColumn := row.referencedColumn
  onUpdate := row.updateRule
  onDelete := row.deleteRule

/-- The foreign keys of a table, in order of first mention. The last row of a name declares its
key. -/
def listOfRows (rows : List Dump.ForeignKeyRow) : List ForeignKey :=
  Keyed.ofList name (rows.map ofRow)

/-- The indexes that no row of foreign keys stands for. -/
def indexesBeside (rows : List Dump.ForeignKeyRow) (indexes : List Index) : List Index :=
  indexes.filter fun index => !rows.any (·.name == index.name)

end ForeignKey

end TableMigration
