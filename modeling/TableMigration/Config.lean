import TableMigration.Text.Basic

/-!
# Settings

What the settings file decides: how migrations are written, and what the dumps are called.
-/

namespace TableMigration

structure OutputSettings where
  indent : Nat := 12
  /-- The file of a template; blank for the built-in one. -/
  template : String := ""
  directory : String := "migrations"
  timestampPrefix : Bool := true
deriving DecidableEq, Repr

/-- What the dumps of a table are called in its directory. -/
structure DumpSettings where
  structureFile : String := "structure.tsv"
  keysFile : String := "keys.tsv"
  constraintsFile : String := "constraints.tsv"
deriving DecidableEq, Repr

structure Config where
  output : OutputSettings := {}
  dump : DumpSettings := {}
deriving DecidableEq, Repr

/-- The path of the template, unless the built-in one is to be used. -/
def Config.templatePath? (config : Config) : Option String :=
  let path := Text.trimmed config.output.template
  if path = "" then none else some path

def Config.outputDirectory (config : Config) : String :=
  config.output.directory

end TableMigration
