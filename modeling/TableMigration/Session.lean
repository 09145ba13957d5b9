import TableMigration.Column.Convention
import TableMigration.Dump.Reader
import TableMigration.Naming
import TableMigration.Statement
import TableMigration.Template

/-!
# Sessions

The conversion of one table. Its dumps are loaded one at a time: the indexes look at the columns,
and the foreign keys stand for indexes.
-/

namespace TableMigration

/-- A table with what has been loaded of it. -/
structure Session where
  table : String
  columns : List Column
  indexes : List Index
  foreignKeys : List ForeignKey
deriving DecidableEq, Repr

structure Blocks where
  columns : String
  indexes : String
  foreignKeys : String
deriving DecidableEq, Repr

namespace Session

def start (table : String) : Session where
  table := table
  columns := []
  indexes := []
  foreignKeys := []

end Session

/-! ### Loading -/

/-- A change of a session. What is changed before a fault stays changed. -/
abbrev Loading := ExceptT Dump.MalformedRow (StateM Session)

inductive Load where
  | columns (dump : String)
  | indexes (dump : String)
  | foreignKeys (dump : String)
deriving DecidableEq, Repr

namespace Load

/-- Reads the dump, and changes the session once it is read. Foreign keys also drop the indexes that
they stand for. -/
def change : Load → Loading Unit
  | columns dump => do
    let rows ← Dump.readColumnRows dump
    modify fun session => { session with columns := Column.listOfRows rows }
  | indexes dump => do
    let rows ← Dump.readIndexRows dump
    modify fun session => { session with indexes := Index.listOfRows rows session.columns }
  | foreignKeys dump => do
    let rows ← Dump.readForeignKeyRows dump
    modify fun session => { session with indexes := ForeignKey.indexesBeside rows session.indexes }
    modify fun session => { session with foreignKeys := ForeignKey.listOfRows rows }

/-- What the load comes to, and the session after it. -/
def perform (load : Load) (session : Session) : Except Dump.MalformedRow Unit × Session :=
  load.change.run.run session

theorem perform_columns (session : Session) (dump : String) :
    (columns dump).perform session =
      match Dump.readColumnRows dump with
      | .ok rows => (.ok (), { session with columns := Column.listOfRows rows })
      | .error fault => (.error fault, session) := by
  rw [perform, change]
  cases Dump.readColumnRows dump <;> rfl

theorem perform_indexes (session : Session) (dump : String) :
    (indexes dump).perform session =
      match Dump.readIndexRows dump with
      | .ok rows => (.ok (), { session with indexes := Index.listOfRows rows session.columns })
      | .error fault => (.error fault, session) := by
  rw [perform, change]
  cases Dump.readIndexRows dump <;> rfl

theorem perform_foreignKeys (session : Session) (dump : String) :
    (foreignKeys dump).perform session =
      match Dump.readForeignKeyRows dump with
      | .ok rows =>
        (.ok (), { session with
          indexes := ForeignKey.indexesBeside rows session.indexes
          foreignKeys := ForeignKey.listOfRows rows })
      | .error fault => (.error fault, session) := by
  rw [perform, change]
  cases Dump.readForeignKeyRows dump <;> rfl

end Load

namespace Session

/-- The session with a dump loaded, or why it cannot be read. -/
def loaded (session : Session) (load : Load) : Except Dump.MalformedRow Session :=
  let (outcome, session) := load.perform session
  outcome.map fun _ => session

def loadColumns (session : Session) (dump : String) : Except Dump.MalformedRow Session :=
  session.loaded (.columns dump)

def loadIndexes (session : Session) (dump : String) : Except Dump.MalformedRow Session :=
  session.loaded (.indexes dump)

def loadForeignKeys (session : Session) (dump : String) : Except Dump.MalformedRow Session :=
  session.loaded (.foreignKeys dump)

section

variable (session : Session) (dump : String)

theorem loadColumns_eq : session.loadColumns dump =
    (Dump.readColumnRows dump).map fun rows =>
      { session with columns := Column.listOfRows rows } := by
  rw [loadColumns, loaded, Load.perform_columns]
  cases Dump.readColumnRows dump <;> rfl

theorem loadIndexes_eq : session.loadIndexes dump =
    (Dump.readIndexRows dump).map fun rows =>
      { session with indexes := Index.listOfRows rows session.columns } := by
  rw [loadIndexes, loaded, Load.perform_indexes]
  cases Dump.readIndexRows dump <;> rfl

theorem loadForeignKeys_eq : session.loadForeignKeys dump =
    (Dump.readForeignKeyRows dump).map fun rows =>
      { session with
        indexes := ForeignKey.indexesBeside rows session.indexes
        foreignKeys := ForeignKey.listOfRows rows } := by
  rw [loadForeignKeys, loaded, Load.perform_foreignKeys]
  cases Dump.readForeignKeyRows dump <;> rfl

end

/-! ### Rendering -/

/-- The statements of the table, indented by `indent` spaces. -/
def blocks (session : Session) (indent : Nat) : Blocks where
  columns := Statement.block indent (session.columns.map Column.statement)
  indexes := Statement.block indent (session.indexes.map Index.statement)
  foreignKeys := Statement.block indent (session.foreignKeys.map ForeignKey.statement)

def migration (session : Session) (template : Template) (indent : Nat) : String :=
  let blocks := session.blocks indent
  template.fill fun
    | .className => Naming.className session.table
    | .tableName => session.table
    | .columns => blocks.columns
    | .indexes => blocks.indexes
    | .foreignKeys => blocks.foreignKeys

end Session

/-- Converts the three dumps of a table into its migration. -/
def migrationOf (table columns indexes foreignKeys : String) (template : Template) (indent : Nat) :
    Except Dump.MalformedRow String := do
  let session ← (Session.start table).loadColumns columns
  let session ← session.loadIndexes indexes
  let session ← session.loadForeignKeys foreignKeys
  return session.migration template indent

end TableMigration
