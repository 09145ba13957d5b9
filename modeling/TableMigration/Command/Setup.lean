import TableMigration.Command.Failure
import TableMigration.Config.Reader
import TableMigration.Config.Writer
import TableMigration.File.Script

/-!
# Settings on disk

Finding and loading the settings and the template, and writing the first settings file.
-/

namespace TableMigration.Command

open File (Script)

def causedBy {α : Type} (result : Except File.Fault α) : Except Cause α :=
  result.mapError Cause.file

def loadConfig (path : String) : Script (Except Cause Config) := do
  match causedBy (← Script.readText path) with
  | .error cause => return .error cause
  | .ok text =>
    match Config.read? text with
    | some config => return .ok config
    | none => return .error .settings

def saveConfig (config : Config) (path : String) : Script (Except Cause Unit) := do
  return causedBy (← Script.writeText path config.write)

/-- The settings files to look for, in order. -/
def configCandidates : List String := ["migration.toml", ".migration.toml"]

/-- Loads the first of some settings files that is there; without one, the defaults hold. -/
def loadFirstConfig : List String → Script (Except Cause Config)
  | [] => return .ok {}
  | path :: others => do
    if ← Script.exists? path then loadConfig path else loadFirstConfig others

def loadTemplate (path : String) : Script (Except Cause Template) := do
  match causedBy (← Script.readText path) with
  | .error cause => return .error cause
  | .ok text => return (Template.ofText text).mapError Cause.template

structure Setup where
  config : Config
  template : Template

/-- Loads the settings and the template that they name. -/
def loadSetup (configFile : String) : Script (Except Failure Setup) := do
  match ← loadFirstConfig (configFile :: configCandidates) with
  | .error cause => return .error (.loadSettings configFile cause)
  | .ok config =>
    match config.templatePath? with
    | none => return .ok { config, template := Template.builtin }
    | some path =>
      match ← loadTemplate path with
      | .error cause => return .error (.loadTemplate path cause)
      | .ok template => return .ok { config, template }

/-- Writes the default settings, unless something is in their place and is not to be replaced.
Tells whether they were written. -/
def writeDefaults (configFile : String) (force : Bool) : Script (Except Failure Bool) := do
  let present ← if force then pure false else Script.exists? configFile
  if present then return .ok false
  else
    match ← saveConfig {} configFile with
    | .ok () => return .ok true
    | .error cause => return .error (.writeSettings configFile cause)

end TableMigration.Command
