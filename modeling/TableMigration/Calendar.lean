/-!
# Time stamps

A moment of the calendar as the front of a file name, so that the files of later migrations sort
behind those of earlier ones.
-/

namespace TableMigration

/-- A moment of the calendar, to the second. -/
structure Moment where
  year : Int
  month : Nat
  day : Nat
  hour : Nat
  minute : Nat
  second : Nat
deriving DecidableEq, Repr

namespace Moment

/-- A number in decimal with zeros before it, at least `width` digits long. -/
def padded (width n : Nat) : String :=
  let digits := Nat.toDigits 10 n
  String.ofList (List.replicate (width - digits.length) '0' ++ digits)

/-- A year in four digits, with a sign before it outside the years 0 to 9999. -/
def yearText (year : Int) : String :=
  let digits := padded 4 year.natAbs
  if 0 ≤ year ∧ year < 10000 then digits
  else (if year < 0 then "-" else "+") ++ digits

/-- A field that a format can ask for. -/
inductive Field where
  | year
  | month
  | day
  | hour
  | minute
  | second
deriving DecidableEq, Repr

/-- The field that a letter behind a percent sign asks for. -/
def Field.ofLetter? : Char → Option Field
  | 'Y' => some .year
  | 'm' => some .month
  | 'd' => some .day
  | 'H' => some .hour
  | 'M' => some .minute
  | 'S' => some .second
  | _ => none

def field (m : Moment) : Field → String
  | .year => yearText m.year
  | .month => padded 2 m.month
  | .day => padded 2 m.day
  | .hour => padded 2 m.hour
  | .minute => padded 2 m.minute
  | .second => padded 2 m.second

/-- A format with the fields of a moment in it. What asks for no field stands for itself. -/
def formatted (m : Moment) : List Char → List Char
  | '%' :: letter :: rest =>
    match Field.ofLetter? letter with
    | some asked => (m.field asked).toList ++ m.formatted rest
    | none => '%' :: letter :: m.formatted rest
  | c :: rest => c :: m.formatted rest
  | [] => []

/-- The format of the front of a file name, as in `2024_01_20_120005`. -/
def stampFormat : String := "%Y_%m_%d_%H%M%S"

def stamp (m : Moment) : String :=
  String.ofList (m.formatted stampFormat.toList)

end Moment

end TableMigration
