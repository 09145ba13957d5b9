import TableMigration.Column.BaseType
import TableMigration.Column.TypeText
import TableMigration.Text.Basic

/-!
# Resolved types

The schema method of a column type. Every type text resolves: one that cannot be read, or that
has no method, gets the method name `UNKNOWN:` with the type after it.
-/

namespace TableMigration

/-- A column type with the schema method that declares it. -/
structure ResolvedType where
  base : BaseType
  method : String
  args : ColumnArgs
  /-- Set for booleans only, whose sign is dropped. -/
  unsigned : Option Bool
deriving DecidableEq, Repr

namespace ResolvedType

def ofUnknown (name : String) : ResolvedType where
  base := .unknown name
  method := "UNKNOWN:" ++ name
  args := .none
  unsigned := none

/-- A width of one, which makes a `tinyint` a boolean. -/
def isBooleanWidth : ColumnArgs → Bool
  | .scalar width => Text.trim width.toList == ['1']
  | _ => false

/-- The method of an integer column: counting if the server counts it up, otherwise unsigned if a
modifier says so. -/
def integerMethod (methods : BaseType.IntegerMethods) (modifiers : Option String)
    (extra : String) : String :=
  if Text.contains extra "auto_increment" then methods.counting
  else if modifiers.any (Text.contains · "unsigned") then methods.unsigned
  else methods.plain

/-- Resolves a type that has been cut up. Integers and dates take no arguments. -/
def ofParts (parts : TypeParts) (extra : String) : ResolvedType :=
  let base := BaseType.ofName parts.base
  if base = .tinyInt ∧ isBooleanWidth parts.args = true then
    { base, method := "boolean", args := .none, unsigned := some false }
  else
    match base.integerMethods? with
    | some methods =>
      { base
        method := integerMethod methods parts.modifiers extra
        args := .none
        unsigned := none }
    | none =>
      match base.fixedMethod? with
      | some method =>
        { base
          method
          args := if base = .date then .none else parts.args
          unsigned := none }
      | none => ofUnknown (Text.lower parts.base)

def ofText (text extra : String) : ResolvedType :=
  match TypeParts.ofText? text with
  | some parts => ofParts parts extra
  | none => ofUnknown (Text.lower (Text.trimmed text))

end ResolvedType

end TableMigration
