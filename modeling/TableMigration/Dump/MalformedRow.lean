import TableMigration.Dump.Row
import TableMigration.Text.CharClass

/-!
# Malformed rows

Why a line of a dump is not a row, and how that is reported. A report shows the line in double
quotes, with quotes, backslashes and characters that cannot be seen written as escapes.
-/

namespace TableMigration.Text

/-- A character by its number: `\u`, then the code point in hexadecimal between braces. -/
def numberEscape (c : Char) : List Char :=
  "\\u\x7b".toList ++ Nat.toDigits 16 c.toNat ++ "\x7d".toList

/-- How a message shows a character. -/
def escapeChar (c : Char) : List Char :=
  if c = '\t' then ['\\', 't']
  else if c = '\r' then ['\\', 'r']
  else if c = '\n' then ['\\', 'n']
  else if c.toNat = 0 then ['\\', '0']
  else if c = '"' then ['\\', '"']
  else if c = '\\' then ['\\', '\\']
  else if isHidden c then numberEscape c
  else [c]

def escaped (s : String) : String :=
  "\"" ++ String.ofList (s.toList.flatMap escapeChar) ++ "\""

end TableMigration.Text

namespace TableMigration.Dump

inductive RowFault where
  /-- The line has another number of fields than its dump asks for. -/
  | fieldCount (found : Nat)
  /-- The position of a column in its index is not a positive number. -/
  | position (text : String)
deriving DecidableEq, Repr

/-- A line that is not a row, with its number in the file. -/
structure MalformedRow where
  kind : Kind
  line : Nat
  fault : RowFault
  row : String
deriving DecidableEq, Repr

/-- How many fields a line of the dump has; an index row may have more. -/
def Kind.fieldRule : Kind → String
  | .columns => "应有 7 个字段"
  | .indexes => "应至少有 6 个字段"
  | .foreignKeys => "应有 6 个字段"

def RowFault.reason (kind : Kind) : RowFault → String
  | .fieldCount found => kind.fieldRule ++ "，实际 " ++ toString found ++ " 个"
  | .position text => "seq_in_index 必须是正整数: " ++ Text.escaped text

def MalformedRow.message (e : MalformedRow) : String :=
  e.kind.label ++ "第 " ++ toString e.line ++ " 行格式错误: " ++ e.fault.reason e.kind ++
    " (原始内容: " ++ Text.escaped e.row ++ ")"

end TableMigration.Dump
