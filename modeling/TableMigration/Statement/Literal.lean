import TableMigration.Text.Basic

/-!
# Literals

Texts and numbers as a migration writes them: texts in single quotes, numbers as they are.
-/

namespace TableMigration.Statement

def quoteChar (c : Char) : List Char :=
  if c = '\\' then ['\\', '\\'] else if c = '\'' then ['\\', '\''] else [c]

/-- A text in single quotes. -/
def quote (s : String) : String :=
  "'" ++ String.ofList (s.toList.flatMap quoteChar) ++ "'"

def dropSign : List Char → List Char
  | '+' :: rest => rest
  | '-' :: rest => rest
  | s => s

def isExponentMark (c : Char) : Bool :=
  c == 'e' || c == 'E'

/-- Digits with at most one point, and a digit on one side of it. -/
def isMantissa (s : List Char) : Bool :=
  let whole := s.takeWhile (· != '.')
  let fraction := (s.dropWhile (· != '.')).drop 1
  whole.all Char.isDigit && fraction.all Char.isDigit && !(whole.isEmpty && fraction.isEmpty)

/-- Nothing, or a mark with a signed number after it. -/
def isExponent : List Char → Bool
  | [] => true
  | _ :: rest => !(dropSign rest).isEmpty && (dropSign rest).all Char.isDigit

/-- A decimal number after blanks: sign, mantissa and exponent. -/
def isNumeric (s : String) : Bool :=
  let number := dropSign (Text.trimStart s.toList)
  isMantissa (number.takeWhile (!isExponentMark ·)) &&
    isExponent (number.dropWhile (!isExponentMark ·))

/-- A name in an argument: as it is when it reads as a number, else in quotes. -/
def argument (s : String) : String :=
  if isNumeric s then s else quote s

def bracketed (items : List String) : String :=
  "[" ++ ", ".intercalate items ++ "]"

/-- Names as one argument: a single one on its own, several in brackets. -/
def arguments (names : List String) : String :=
  let items := names.map argument
  if 1 < items.length then bracketed items else ", ".intercalate items

end TableMigration.Statement
