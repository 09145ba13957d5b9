import TableMigration.Main
import TableMigration.Proofs.Column.ConventionOrder
import TableMigration.Proofs.Column.Decomposition
import TableMigration.Proofs.Column.DefaultText
import TableMigration.Proofs.Column.Dispatch
import TableMigration.Proofs.Column.Folding
import TableMigration.Proofs.Column.Padding
import TableMigration.Proofs.Column.Reading
import TableMigration.Proofs.Column.Recasing
import TableMigration.Proofs.Column.Redeclared
import TableMigration.Proofs.Column.Reparse
import TableMigration.Proofs.Column.Whole
import TableMigration.Proofs.Command.OrderIndependence
import TableMigration.Proofs.Config.Saving
import TableMigration.Proofs.Dump.FirstFault
import TableMigration.Proofs.Dump.Writing
import TableMigration.Proofs.Index.Gathered
import TableMigration.Proofs.Naming.Order
import TableMigration.Proofs.Naming.Studly
import TableMigration.Proofs.Session.BlockLines
import TableMigration.Proofs.Session.PrimaryKey
import TableMigration.Proofs.Session.Replacement
import TableMigration.Proofs.Session.TableName
import TableMigration.Proofs.Statement.Distinct
import TableMigration.Proofs.Statement.Names
