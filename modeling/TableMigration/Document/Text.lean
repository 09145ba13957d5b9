/-!
# Texts in a document

Reading texts between quotes. In double quotes a backslash starts an escape, in single quotes
every character stands for itself; three quotes hold a text of several lines.
-/

namespace TableMigration.Document

/-- A reader takes what it reads off the front of a text. -/
abbrev Reader (α : Type) := List Char → Option (α × List Char)

/-- A character that texts and comments may hold: no control other than the tab. -/
def isTextChar (c : Char) : Bool :=
  c == '\t' || (0x20 ≤ c.toNat && c.toNat != 0x7F)

def isSpace (c : Char) : Bool :=
  c == ' ' || c == '\t'

def dropLineEnd? : List Char → Option (List Char)
  | '\n' :: rest => some rest
  | '\r' :: '\n' :: rest => some rest
  | _ => none

def hexDigit? (c : Char) : Option Nat :=
  if c.isDigit then some (c.toNat - '0'.toNat)
  else if 'a' ≤ c ∧ c ≤ 'f' then some (c.toNat - 'a'.toNat + 10)
  else if 'A' ≤ c ∧ c ≤ 'F' then some (c.toNat - 'A'.toNat + 10)
  else none

def charOfCode? (code : Nat) : Option Char :=
  if code.isValidChar then some (Char.ofNat code) else none

/-- The character that an escape of one letter stands for. -/
def escapeChar? : Char → Option Char
  | 'b' => some '\x08'
  | 't' => some '\t'
  | 'n' => some '\n'
  | 'f' => some '\x0c'
  | 'r' => some '\r'
  | '"' => some '"'
  | '\\' => some '\\'
  | _ => none

structure Quotes where
  mark : Char
  multiline : Bool

/-- Where the reading of a text stands. -/
inductive TextState where
  | text
  | escape
  /-- In the number of a character, with so many digits to come. -/
  | code (digits : Nat) (value : Nat)
  /-- After a backslash and blanks, before the line end that has to follow. -/
  | lineJoin
  /-- After the line end of a joined line, where blanks and line ends are dropped. -/
  | gap
  /-- After a carriage return, before the line feed that has to follow. -/
  | carriage (keep : Bool)
deriving DecidableEq, Repr

/-- Reads one character of a text: the next state, and what the character adds. -/
def TextState.next (quotes : Quotes) : TextState → Char → Option (TextState × List Char)
  | .text, c =>
    if c = '\\' ∧ quotes.mark = '"' then some (.escape, [])
    else if c = '\n' then if quotes.multiline then some (.text, ['\n']) else none
    else if c = '\r' then if quotes.multiline then some (.carriage true, []) else none
    else if isTextChar c then some (.text, [c])
    else none
  | .escape, c =>
    if c = 'u' then some (.code 4 0, [])
    else if c = 'U' then some (.code 8 0, [])
    else
      match escapeChar? c with
      | some d => some (.text, [d])
      | none =>
        if !quotes.multiline then none
        else if isSpace c then some (.lineJoin, [])
        else if c = '\n' then some (.gap, [])
        else if c = '\r' then some (.carriage false, [])
        else none
  | .code digits value, c => do
    let digit ← hexDigit? c
    let value := value * 16 + digit
    if digits ≤ 1 then
      let d ← charOfCode? value
      some (.text, [d])
    else some (.code (digits - 1) value, [])
  | .lineJoin, c =>
    if isSpace c then some (.lineJoin, [])
    else if c = '\n' then some (.gap, [])
    else if c = '\r' then some (.carriage false, [])
    else none
  | .gap, c =>
    if isSpace c || c == '\n' then some (.gap, [])
    else if c = '\r' then some (.carriage false, [])
    else if c = '\\' ∧ quotes.mark = '"' then some (.escape, [])
    else if isTextChar c then some (.text, [c])
    else none
  | .carriage keep, c =>
    if c = '\n' then if keep then some (.text, ['\n']) else some (.gap, []) else none

def TextState.mayClose : TextState → Bool
  | .text => true
  | .gap => true
  | _ => false

/-- The end of a text: one quote, or three with up to two more before them that belong to the
text. -/
def closing? (quotes : Quotes) (s : List Char) : Option (List Char × List Char) :=
  let q := quotes.mark
  if quotes.multiline then
    match s with
    | a :: b :: c :: rest =>
      if a = q ∧ b = q ∧ c = q then
        let extra := (rest.take 2).takeWhile (· == q)
        some (extra, rest.drop extra.length)
      else none
    | _ => none
  else
    match s with
    | a :: rest => if a = q then some ([], rest) else none
    | [] => none

/-- Reads a text up to the quotes that close it. -/
def readTextFrom (quotes : Quotes) : TextState → Reader (List Char)
  | _, [] => none
  | state, c :: rest =>
    match if state.mayClose then closing? quotes (c :: rest) else none with
    | some result => some result
    | none =>
      match state.next quotes c with
      | none => none
      | some (state, added) =>
        (readTextFrom quotes state rest).map fun (text, rest) => (added ++ text, rest)

/-- Reads a text on one line, from behind its first quote. -/
def readLineText (mark : Char) (s : List Char) : Option (String × List Char) :=
  (readTextFrom ⟨mark, false⟩ .text s).map fun (text, rest) => (String.ofList text, rest)

/-- Reads a text on several lines, from behind its first three quotes. A line end right there does
not belong to it. -/
def readBlockText (mark : Char) (s : List Char) : Option (String × List Char) :=
  (readTextFrom ⟨mark, true⟩ .text ((dropLineEnd? s).getD s)).map fun (text, rest) =>
    (String.ofList text, rest)

/-- Reads a text from its first quote on. -/
def readText : Reader String
  | '"' :: '"' :: '"' :: rest => readBlockText '"' rest
  | '\'' :: '\'' :: '\'' :: rest => readBlockText '\'' rest
  | '"' :: rest => readLineText '"' rest
  | '\'' :: rest => readLineText '\'' rest
  | _ => none

end TableMigration.Document
