import TableMigration.Document.Text
import TableMigration.Document.Value

/-!
# Numbers and moments in a document

Reading integers in 64 bits, fractions that stay finite, and valid dates and times.
-/

namespace TableMigration.Document

/-! ### Digits -/

/-- Takes digits off the front, with single underscores between them left out. -/
def takeDigits (p : Char → Bool) : List Char → List Char × List Char
  | [] => ([], [])
  | c :: rest =>
    if p c then
      let (digits, tail) := takeDigits p rest
      (c :: digits, tail)
    else if c == '_' && rest.head?.any p then takeDigits p rest
    else ([], c :: rest)

def readDigits (p : Char → Bool) : Reader (List Char)
  | [] => none
  | c :: rest => if p c then some (takeDigits p (c :: rest)) else none

def valueOf (base : Nat) (digits : List Char) : Nat :=
  digits.foldl (fun value digit => value * base + (hexDigit? digit).getD 0) 0

/-- Reads a sign: whether it is a minus. -/
def takeSign : List Char → Bool × List Char
  | '-' :: rest => (true, rest)
  | '+' :: rest => (false, rest)
  | s => (false, s)

/-- Reads the digits of a decimal integer; a zero at the front stands alone. -/
def readWhole : Reader (List Char)
  | '0' :: rest => some (['0'], rest)
  | s => readDigits Char.isDigit s

/-! ### Integers -/

/-- An integer that fits in 64 bits. -/
def integer? (n : Int) : Option Value :=
  if -0x8000000000000000 ≤ n ∧ n < 0x8000000000000000 then some (.integer n) else none

def readInBase (base : Nat) (p : Char → Bool) (s : List Char) : Option (Value × List Char) := do
  let (digits, rest) ← readDigits p s
  let value ← integer? (valueOf base digits)
  some (value, rest)

/-! ### Fractions -/

/-- The least number that rounds to no finite double: half a unit above the largest. -/
def overflowBound : Nat := 0x3FFFFFFFFFFFFF * Nat.pow 2 970

/-- `digits * 10 ^ exponent` is too large for a double. Numbers with an order of magnitude far
from the bound are decided by it. -/
def overflows (digits : Nat) (exponent : Int) : Bool :=
  let magnitude := (Nat.toDigits 10 digits).length + exponent
  if digits = 0 ∨ magnitude ≤ 308 then false
  else if 310 ≤ magnitude then true
  else if 0 ≤ exponent then overflowBound ≤ digits * Nat.pow 10 exponent.toNat
  else overflowBound * Nat.pow 10 (-exponent).toNat ≤ digits

def readExponent : Reader Int
  | c :: rest =>
    if c = 'e' ∨ c = 'E' then
      let (negative, rest) := takeSign rest
      (readDigits Char.isDigit rest).map fun (digits, rest) =>
        let value : Int := valueOf 10 digits
        (if negative then -value else value, rest)
    else none
  | [] => none

def readPoint : Reader (List Char)
  | '.' :: rest => readDigits Char.isDigit rest
  | _ => none

/-- The fraction with these digits, `places` of them behind the point. -/
def fraction? (negative : Bool) (digits : List Char) (places : Nat) (exponent : Int) :
    Option Value :=
  if !negative && overflows (valueOf 10 digits) (exponent - places) then none else some .fraction

/-- Reads a word that stands for a number without digits. -/
def readSpecial : List Char → Option (Value × List Char)
  | 'i' :: 'n' :: 'f' :: rest => some (.fraction, rest)
  | 'n' :: 'a' :: 'n' :: rest => some (.fraction, rest)
  | _ => none

def readDecimal (s : List Char) : Option (Value × List Char) :=
  let (negative, unsigned) := takeSign s
  match readSpecial unsigned with
  | some result => some result
  | none => do
    let (whole, rest) ← readWhole unsigned
    match readPoint rest with
    | some (places, rest) =>
      let (exponent, rest) := (readExponent rest).getD (0, rest)
      let value ← fraction? negative (whole ++ places) places.length exponent
      some (value, rest)
    | none =>
      match readExponent rest with
      | some (exponent, rest) =>
        let value ← fraction? negative whole 0 exponent
        some (value, rest)
      | none =>
        let n : Int := valueOf 10 whole
        let value ← integer? (if negative then -n else n)
        some (value, rest)

def readNumber : List Char → Option (Value × List Char)
  | '0' :: 'x' :: rest => readInBase 16 (fun c => (hexDigit? c).isSome) rest
  | '0' :: 'o' :: rest => readInBase 8 (fun c => '0' ≤ c && c ≤ '7') rest
  | '0' :: 'b' :: rest => readInBase 2 (fun c => c == '0' || c == '1') rest
  | s => readDecimal s

/-! ### Moments -/

/-- Reads a number of exactly `n` digits between two bounds. -/
def readField (n low high : Nat) (s : List Char) : Option (Nat × List Char) :=
  let digits := s.take n
  let value := valueOf 10 digits
  if digits.length = n ∧ digits.all Char.isDigit = true ∧ low ≤ value ∧ value ≤ high then
    some (value, s.drop n)
  else none

def dropChar? (c : Char) : List Char → Option (List Char)
  | d :: rest => if d = c then some rest else none
  | [] => none

def daysIn (year month : Nat) : Nat :=
  if month = 2 then
    if year % 4 = 0 ∧ (year % 100 ≠ 0 ∨ year % 400 = 0) then 29 else 28
  else if month = 4 ∨ month = 6 ∨ month = 9 ∨ month = 11 then 30
  else 31

def skipDate? (s : List Char) : Option (List Char) := do
  let (year, s) ← readField 4 0 9999 s
  let s ← dropChar? '-' s
  let (month, s) ← readField 2 1 12 s
  let s ← dropChar? '-' s
  let (day, s) ← readField 2 1 31 s
  if day ≤ daysIn year month then some s else none

/-- What follows the parts of a second, if there are any. -/
def skipParts? : List Char → Option (List Char)
  | '.' :: c :: rest => if c.isDigit then some (rest.dropWhile Char.isDigit) else none
  | '.' :: [] => none
  | s => some s

def skipTime? (s : List Char) : Option (List Char) := do
  let (_, s) ← readField 2 0 23 s
  let s ← dropChar? ':' s
  let (_, s) ← readField 2 0 59 s
  let s ← dropChar? ':' s
  let (_, s) ← readField 2 0 60 s
  skipParts? s

/-- What follows the distance from the prime meridian's time, if there is one. -/
def skipOffset? : List Char → Option (List Char)
  | c :: rest =>
    if c = 'Z' ∨ c = 'z' then some rest
    else if c = '+' ∨ c = '-' then do
      let (_, s) ← readField 2 0 23 rest
      let s ← dropChar? ':' s
      let (_, s) ← readField 2 0 59 s
      some s
    else some (c :: rest)
  | [] => some []

/-- What follows the time of a date, if it has one. -/
def skipDateTime? : List Char → Option (List Char)
  | c :: rest =>
    if c = 'T' ∨ c = 't' ∨ (c = ' ' ∧ rest.head?.any Char.isDigit) then
      (skipTime? rest).bind skipOffset?
    else some (c :: rest)
  | [] => some []

/-- Reads a date, a time, or both. -/
def readMoment (s : List Char) : Option (Value × List Char) :=
  match skipDate? s with
  | some rest => (skipDateTime? rest).map (Value.moment, ·)
  | none => (skipTime? s).map (Value.moment, ·)

end TableMigration.Document
