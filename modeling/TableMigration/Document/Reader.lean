import TableMigration.Document.Number
import TableMigration.Document.Tables

/-!
# Reading documents

A document is read line by line; a text or an array may go on over several lines.
-/

namespace TableMigration.Document

/-! ### Between the words -/

def skipSpace (s : List Char) : List Char :=
  s.dropWhile isSpace

def skipComment : List Char → List Char
  | '#' :: rest => rest.dropWhile isTextChar
  | s => s

/-- Takes off blanks and a comment up to the end of a line or of the document. -/
def skipLineEnd? (s : List Char) : Option (List Char) :=
  match skipComment (skipSpace s) with
  | [] => some []
  | rest => dropLineEnd? rest

def skipGap (inComment : Bool) : List Char → List Char
  | [] => []
  | '\n' :: rest => skipGap false rest
  | '\r' :: '\n' :: rest => skipGap false rest
  | c :: rest =>
    if inComment then if isTextChar c then skipGap true rest else c :: rest
    else if isSpace c then skipGap false rest
    else if c = '#' then skipGap true rest
    else c :: rest

/-! ### Keys -/

def isBareKeyChar (c : Char) : Bool :=
  c.isAlphanum || c == '_' || c == '-'

def readKey : Reader String
  | '"' :: rest => readLineText '"' rest
  | '\'' :: rest => readLineText '\'' rest
  | s =>
    let bare := s.takeWhile isBareKeyChar
    if bare.isEmpty then none else some (String.ofList bare, s.dropWhile isBareKeyChar)

/-- Reads the steps of a dotted key, blanks around them included. -/
def readSteps : Nat → Reader (List String)
  | 0, _ => none
  | fuel + 1, s => do
    let (key, rest) ← readKey (skipSpace s)
    match skipSpace rest with
    | '.' :: rest =>
      let (keys, rest) ← readSteps fuel rest
      some (key :: keys, rest)
    | rest => some ([key], rest)

/-- How many levels deep keys, and arrays and braces, have to stay below. -/
def depthLimit : Nat := 80

/-- Reads a dotted key: the tables on the way, and the last step. -/
def readDottedKey (s : List Char) : Option ((List String × String) × List Char) := do
  let (keys, rest) ← readSteps (s.length + 1) s
  if depthLimit ≤ keys.length then none
  else
    let last ← keys.getLast?
    some ((keys.dropLast, last), rest)

/-! ### Values -/

/-- Reads a value that holds no others. -/
def readScalar (s : List Char) : Option (Value × List Char) :=
  match s with
  | 't' :: 'r' :: 'u' :: 'e' :: rest => some (.boolean true, rest)
  | 'f' :: 'a' :: 'l' :: 's' :: 'e' :: rest => some (.boolean false, rest)
  | c :: _ =>
    if c = '"' ∨ c = '\'' then (readText s).map fun (text, rest) => (.string text, rest)
    else (readMoment s).or (readNumber s)
  | [] => none

/-- Reads the items of an array from behind its bracket or a comma. -/
def readItems (read : Reader Value) : Nat → Reader (List Value)
  | 0, _ => none
  | fuel + 1, s =>
    match skipGap false s with
    | ']' :: rest => some ([], rest)
    | s => do
      let (item, rest) ← read s
      match skipGap false rest with
      | ']' :: rest => some ([item], rest)
      | ',' :: rest =>
        let (items, rest) ← readItems read fuel rest
        some (item :: items, rest)
      | _ => none

def readAssignment (read : Reader Value) (s : List Char) :
    Option ((List String × String × Value) × List Char) := do
  let ((path, key), rest) ← readDottedKey s
  match rest with
  | '=' :: rest =>
    let (value, rest) ← read (skipSpace rest)
    some ((path, key, value), rest)
  | _ => none

/-- Reads the entries of a table in braces from behind the brace or a comma. -/
def readEntries (read : Reader Value) : Nat → Reader (List (List String × String × Value))
  | 0, _ => none
  | fuel + 1, s => do
    let (entry, rest) ← readAssignment read s
    match skipSpace rest with
    | '\x7d' :: rest => some ([entry], rest)
    | ',' :: rest =>
      let (entries, rest) ← readEntries read fuel rest
      some (entry :: entries, rest)
    | _ => none

def readBraces (read : Reader Value) (s : List Char) : Option (Value × List Char) :=
  match skipSpace s with
  | '\x7d' :: rest => some (.table .braces [], rest)
  | s => do
    let (lines, rest) ← readEntries read (s.length + 1) s
    let entries ← ofAssignments lines
    some (.table .braces entries, rest)

/-- Reads a value with at most so many levels of arrays and braces in it. -/
def readValue : Nat → Reader Value
  | 0, s => readScalar s
  | levels + 1, s =>
    match s with
    | '[' :: rest =>
      (readItems (readValue levels) (rest.length + 1) rest).map fun (items, rest) =>
        (.array items, rest)
    | '\x7b' :: rest => readBraces (readValue levels) rest
    | s => readScalar s

/-! ### Lines -/

/-- Reads a header from behind its brackets. -/
def readHeader (close : List Char) (s : List Char) :
    Option ((List String × String) × List Char) := do
  let (key, rest) ← readDottedKey s
  if close.isPrefixOf rest then some (key, rest.drop close.length) else none

/-- Reads a line that is neither blank nor a comment alone, without its end. -/
def readLine : Reader Line
  | '[' :: '[' :: rest =>
    (readHeader [']', ']'] rest).map fun ((path, key), rest) => (.element path key, rest)
  | '[' :: rest =>
    (readHeader [']'] rest).map fun ((path, key), rest) => (.header path key, rest)
  | s =>
    (readAssignment (readValue (depthLimit - 1)) s).map fun ((path, key, value), rest) =>
      (.entry path key value, rest)

def readLines : Nat → List Char → Option (List Line)
  | 0, _ => none
  | fuel + 1, s =>
    match skipGap false s with
    | [] => some []
    | s => do
      let (line, rest) ← readLine s
      let rest ← skipLineEnd? rest
      let lines ← readLines fuel rest
      some (line :: lines)

/-- Reads a document; a byte order mark at its front is no part of it. -/
def read? (text : String) : Option Entries :=
  let s :=
    match text.toList with
    | '\uFEFF' :: rest => rest
    | s => s
  (readLines (s.length + 1) s).bind ofLines

end TableMigration.Document
