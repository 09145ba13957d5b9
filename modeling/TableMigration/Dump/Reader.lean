import TableMigration.Dump.MalformedRow
import TableMigration.Text.Basic

/-!
# Reading dumps

A dump is a header line and one row a line, the fields between tabs. Blank lines count for the
line numbers only. Reading stops at the first malformed row.
-/

namespace TableMigration.Dump

/-- The lines that hold rows, with their numbers in the file: all but the header and blank lines,
without the carriage returns that end them. -/
def dataLines (text : List Char) : List (List Char × Nat) :=
  (((text.splitOn '\n').map (Text.dropEndWhile (· == '\r'))).zipIdx 1).drop 1
    |>.filter fun line => !(Text.trim line.1).isEmpty

def cutAtFirst (separator : Char) : Nat → List Char → List (List Char)
  | 0, s => [s]
  | n + 1, s =>
    match s.dropWhile (· != separator) with
    | [] => [s]
    | _ :: rest => s.takeWhile (· != separator) :: cutAtFirst separator n rest

/-- The largest position that a row can carry: 64 bits, all set. -/
def maxPosition : Nat := 0xFFFFFFFFFFFFFFFF

def decimalValue (digits : List Char) : Nat :=
  digits.foldl (fun value digit => value * 10 + (digit.toNat - '0'.toNat)) 0

/-- Reads the position of a column in its index: a positive decimal number between blanks, at most
one plus sign before it. -/
def readPosition? (field : List Char) : Option Nat :=
  let digits :=
    match Text.trim field with
    | '+' :: rest => rest
    | text => text
  if digits.isEmpty || !digits.all Char.isDigit then none
  else
    let value := decimalValue digits
    if 0 < value ∧ value ≤ maxPosition then some value else none

/-- Reads a line of the dump of columns: seven fields. -/
def ColumnRow.read (line : List Char) : Except RowFault ColumnRow :=
  match (line.splitOn '\t').map String.ofList with
  | [field, type, null, key, default, extra, comment] =>
    .ok { field, type, null, key, default, extra, comment }
  | fields => .error (.fieldCount fields.length)

/-- Reads a line of the dump of indexes: five fields, and the rest of the line as the sixth. -/
def IndexRow.read (line : List Char) : Except RowFault IndexRow :=
  match cutAtFirst '\t' 5 line with
  | [table, nonUnique, name, position, column, extra] =>
    match readPosition? position with
    | some value =>
      .ok
        { table := String.ofList table
          nonUnique := String.ofList nonUnique
          name := String.ofList name
          position := value
          column := String.ofList column
          extra := String.ofList extra }
    | none => .error (.position (String.ofList position))
  | fields => .error (.fieldCount fields.length)

/-- Reads a line of the dump of foreign keys: six fields. -/
def ForeignKeyRow.read (line : List Char) : Except RowFault ForeignKeyRow :=
  match (line.splitOn '\t').map String.ofList with
  | [name, column, referencedTable, referencedColumn, updateRule, deleteRule] =>
    .ok { name, column, referencedTable, referencedColumn, updateRule, deleteRule }
  | fields => .error (.fieldCount fields.length)

def readRows {α : Type} (kind : Kind) (read : List Char → Except RowFault α) (text : String) :
    Except MalformedRow (List α) :=
  (dataLines text.toList).mapM fun line =>
    (read line.1).mapError fun fault =>
      { kind, line := line.2, fault, row := String.ofList line.1 }

def readColumnRows : String → Except MalformedRow (List ColumnRow) :=
  readRows .columns ColumnRow.read

def readIndexRows : String → Except MalformedRow (List IndexRow) :=
  readRows .indexes IndexRow.read

def readForeignKeyRows : String → Except MalformedRow (List ForeignKeyRow) :=
  readRows .foreignKeys ForeignKeyRow.read

end TableMigration.Dump
