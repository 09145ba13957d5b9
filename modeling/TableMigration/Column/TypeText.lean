import TableMigration.Text.Basic
import TableMigration.Text.CharClass

/-!
# Type texts

The text of a column type: a word, arguments in parentheses, modifiers. Parentheses and commas
count only outside single-quoted strings, in which a backslash takes the next character along.
-/

namespace TableMigration

/-- The arguments of a column type, as they were written. -/
inductive ColumnArgs where
  | none
  | scalar (value : String)
  | list (values : List String)
deriving DecidableEq, Repr, Inhabited

def ColumnArgs.values : ColumnArgs → List String
  | .none => []
  | .scalar value => [value]
  | .list values => values

/-- Where a scan of a type text stands with respect to single-quoted strings. -/
inductive Quoting where
  | outside
  | inside
  /-- Inside, just after a backslash. -/
  | escaped
deriving DecidableEq, Repr

def Quoting.next : Quoting → Char → Quoting
  | .outside, c => if c = '\'' then .inside else .outside
  | .inside, c => if c = '\\' then .escaped else if c = '\'' then .outside else .inside
  | .escaped, _ => .inside

/-- What stands before and after the first closing parenthesis outside strings. -/
def splitAtClose? (quoting : Quoting) : List Char → Option (List Char × List Char)
  | [] => none
  | c :: rest =>
    if quoting = .outside ∧ c = ')' then some ([], rest)
    else (splitAtClose? (quoting.next c) rest).map fun halves => (c :: halves.1, halves.2)

def consFirst (c : Char) : List (List Char) → List (List Char)
  | [] => [[c]]
  | piece :: pieces => (c :: piece) :: pieces

/-- Cuts a text at its commas outside strings. -/
def splitCommas (quoting : Quoting) : List Char → List (List Char)
  | [] => [[]]
  | c :: rest =>
    if quoting = .outside ∧ c = ',' then [] :: splitCommas .outside rest
    else consFirst c (splitCommas (quoting.next c) rest)

/-- The arguments between the parentheses: none when blank, as they stand without a comma, else
the trimmed pieces between the commas. -/
def ColumnArgs.ofBody (body : List Char) : ColumnArgs :=
  if (Text.trim body).isEmpty then .none
  else if !body.contains ',' then .scalar (String.ofList body)
  else .list ((splitCommas .outside body).map fun piece => String.ofList (Text.trim piece))

structure TypeParts where
  base : String
  args : ColumnArgs
  modifiers : Option String
deriving DecidableEq, Repr

/-- The modifiers in the rest of a type text; none when it is blank. -/
def modifiersOf (rest : List Char) : Option String :=
  let text := Text.trim rest
  if text.isEmpty then none else some (String.ofList text)

/-- Cuts up a type text. There must be a word at its start, no line feed in it, and for a
parenthesis after the word one that closes it. -/
def TypeParts.ofText? (text : String) : Option TypeParts :=
  let s := Text.trim text.toList
  let word := s.takeWhile Text.isWordChar
  if word.isEmpty || s.contains '\n' then none
  else
    let base := String.ofList word
    match s.dropWhile Text.isWordChar with
    | '(' :: inner =>
      (splitAtClose? .outside inner).map fun (body, rest) =>
        { base, args := .ofBody body, modifiers := modifiersOf rest }
    | rest => some { base, args := .none, modifiers := modifiersOf rest }

end TableMigration
