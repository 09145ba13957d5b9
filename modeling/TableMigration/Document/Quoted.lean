/-!
# Writing texts into a document

A text is quoted in the plainest way that can hold it: double quotes, single quotes, three double
or three single quotes, and escapes only when none of these will do.
-/

namespace TableMigration.Document

/-- A control character that only an escape can show. -/
def needsCode (c : Char) : Bool :=
  c != '\t' && c != '\n' && (c.toNat < 0x20 || c.toNat == 0x7F)

/-- The length of the longest run of a character, `run` of which came just before. -/
def longestRun (mark : Char) (run : Nat) : List Char → Nat
  | [] => run
  | c :: rest =>
    if c = mark then longestRun mark (run + 1) rest
    else max run (longestRun mark 0 rest)

/-- A code point in four hexadecimal digits. -/
def codeEscape (c : Char) : List Char :=
  let digits := (Nat.toDigits 16 c.toNat).map Char.toUpper
  ['\\', 'u'] ++ List.replicate (4 - digits.length) '0' ++ digits

/-- A text between double quotes, in which runs of more than `limit` quotes are broken up by
escapes. -/
def escapeFrom (multiline : Bool) (limit run : Nat) : List Char → List Char
  | [] => []
  | c :: rest =>
    if c = '"' then
      if limit ≤ run then '\\' :: '"' :: escapeFrom multiline limit 0 rest
      else '"' :: escapeFrom multiline limit (run + 1) rest
    else
      let shown :=
        if c = '\x08' then ['\\', 'b']
        else if c = '\t' then ['\\', 't']
        else if c = '\n' then if multiline then ['\n'] else ['\\', 'n']
        else if c = '\x0c' then ['\\', 'f']
        else if c = '\r' then ['\\', 'r']
        else if c = '\\' then ['\\', '\\']
        else if needsCode c then codeEscape c
        else [c]
      shown ++ escapeFrom multiline limit 0 rest

/-- The line end that opens a text of several lines. -/
def opening (s : List Char) : List Char :=
  if s.contains '\n' then ['\n'] else []

/-- The mark at both ends of a text that stays on one line and may hold escapes. -/
def lineQuotes : List Char := ['"']

/-- The mark at both ends of a text of several lines that may hold escapes. -/
def blockQuotes : List Char := ['"', '"', '"']

/-- The mark at both ends of a text of several lines that stands as it is. -/
def blockApostrophes : List Char := ['\'', '\'', '\'']

/-- A text in the plainest quotes that can hold it. -/
def quoteChars (s : List Char) : List Char :=
  let newline := s.contains '\n'
  let coded := s.any needsCode
  let escapes := s.contains '\\'
  let quotes := longestRun '"' 0 s
  let apostrophes := longestRun '\'' 0 s
  if !coded && !escapes && quotes == 0 && !newline then
    lineQuotes ++ escapeFrom false 0 0 s ++ lineQuotes
  else if !coded && apostrophes == 0 && !newline then ['\''] ++ s ++ ['\'']
  else if !coded && !escapes && quotes ≤ 2 then
    blockQuotes ++ opening s ++ escapeFrom true 2 0 s ++ blockQuotes
  else if !coded && apostrophes ≤ 2 then blockApostrophes ++ opening s ++ s ++ blockApostrophes
  else if newline then blockQuotes ++ opening s ++ escapeFrom true 2 0 s ++ blockQuotes
  else lineQuotes ++ escapeFrom false 0 0 s ++ lineQuotes

def quote (text : String) : String :=
  String.ofList (quoteChars text.toList)

end TableMigration.Document
