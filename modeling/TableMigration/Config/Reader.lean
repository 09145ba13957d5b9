import TableMigration.Config
import TableMigration.Document.Reader

/-!
# Reading settings

Settings are read from a document. A setting that is not there has its default, and keys that name
no setting are passed over.
-/

namespace TableMigration.Config

open Document (Value Entries)

/-- The settings of a section: by name in a table, by place in an array. A moment has none. -/
def section? : Value → Option (String → Nat → Option Value)
  | .table _ entries => some fun name _ => entries.lookup name
  | .array items => some fun _ place => items[place]?
  | .tables elements => some fun _ place => (elements[place]?).map (.table .header)
  | .moment => some fun _ _ => none
  | _ => none

def textSetting (value : Option Value) (default : String) : Option String :=
  match value with
  | none => some default
  | some (.string text) => some text
  | some _ => none

def flagSetting (value : Option Value) (default : Bool) : Option Bool :=
  match value with
  | none => some default
  | some (.boolean b) => some b
  | some _ => none

def countSetting (value : Option Value) (default : Nat) : Option Nat :=
  match value with
  | none => some default
  | some (.integer n) => if 0 ≤ n then some n.toNat else none
  | some _ => none

def readOutput (setting : String → Nat → Option Value) : Option OutputSettings := do
  let default : OutputSettings := {}
  let indent ← countSetting (setting "indent" 0) default.indent
  let template ← textSetting (setting "template" 1) default.template
  let directory ← textSetting (setting "directory" 2) default.directory
  let timestampPrefix ← flagSetting (setting "timestamp_prefix" 3) default.timestampPrefix
  return { indent, template, directory, timestampPrefix }

def readDump (setting : String → Nat → Option Value) : Option DumpSettings := do
  let default : DumpSettings := {}
  let structureFile ← textSetting (setting "structure_file" 0) default.structureFile
  let keysFile ← textSetting (setting "keys_file" 1) default.keysFile
  let constraintsFile ← textSetting (setting "constraints_file" 2) default.constraintsFile
  return { structureFile, keysFile, constraintsFile }

def ofEntries (entries : Entries) : Option Config := do
  let output ←
    match entries.lookup "output" with
    | none => some {}
    | some value => (section? value).bind readOutput
  let dump ←
    match entries.lookup "dump" with
    | none => some {}
    | some value => (section? value).bind readDump
  return { output, dump }

def read? (text : String) : Option Config :=
  (Document.read? text).bind ofEntries

end TableMigration.Config
