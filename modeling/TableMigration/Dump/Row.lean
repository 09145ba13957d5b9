/-!
# Rows of a dump

One table is described by three dumps: its columns, its indexes and its foreign keys. A row keeps
the fields of one line as they were written.
-/

namespace TableMigration.Dump

inductive Kind where
  | columns
  | indexes
  | foreignKeys
deriving DecidableEq, Repr

/-- The name of a dump in messages. -/
def Kind.label : Kind → String
  | .columns => "结构导出"
  | .indexes => "索引导出"
  | .foreignKeys => "外键导出"

structure ColumnRow where
  field : String
  type : String
  null : String
  key : String
  default : String
  extra : String
  comment : String
deriving DecidableEq, Repr

/-- A line of the dump of indexes: one column of one index. -/
structure IndexRow where
  table : String
  nonUnique : String
  name : String
  position : Nat
  column : String
  extra : String
deriving DecidableEq, Repr

structure ForeignKeyRow where
  name : String
  column : String
  referencedTable : String
  referencedColumn : String
  updateRule : String
  deleteRule : String
deriving DecidableEq, Repr

end TableMigration.Dump
