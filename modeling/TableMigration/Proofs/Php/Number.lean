import TableMigration.Proofs.Php.Reader
import TableMigration.Proofs.Statement.Numeral
import TableMigration.Proofs.Text.Decimal

/-!
# Numbers in statements

What PHP reads digits without quotes as, and the text of that number as a string. A number of 64
bits that is written in decimal, and no other text, is read as an integer with this text
(`text_readNumber?_iff`). The texts of floats are left open.
-/

namespace TableMigration.Php

/-- The largest integer. What is larger is read as a float. -/
def maxInteger : Nat :=
  2 ^ 63 - 1

inductive Number where
  | integer (value : Int)
  /-- A float, by its sign and the digits behind the sign. -/
  | float (negative : Bool) (digits : String)
deriving DecidableEq, Repr

/-- A number as a string, by the strings of floats without a sign. -/
def Number.text (floatText : String → String) : Number → String
  | .integer value => toString value
  | .float negative digits => (if negative then "-" else "") ++ floatText digits

def isOctalDigit (c : Char) : Bool :=
  '0' ≤ c && c ≤ '7'

/-- The value of digits. Behind a zero they are octal, and are no number if one of them is eight
or nine. -/
def digitsValue? : List Char → Option Nat
  | '0' :: c :: rest =>
    if (c :: rest).all isOctalDigit then some (Nat.ofDigitChars 8 (c :: rest) 0) else none
  | digits => some (Nat.ofDigitChars 10 digits 0)

/-- Reads a number without a sign behind a sign: digits as an integer that is not too large, and
digits with a point or an exponent as a float. -/
def readUnsigned? (negative : Bool) (s : List Char) : Option Number :=
  if s ≠ [] ∧ s.all Char.isDigit = true then
    (digitsValue? s).map fun value =>
      if value ≤ maxInteger then .integer (if negative then -value else value)
      else .float negative (String.ofList s)
  else if Statement.Unsigned s then some (.float negative (String.ofList s))
  else none

def readNumber? : List Char → Option Number
  | '+' :: rest => readUnsigned? false rest
  | '-' :: rest => readUnsigned? true rest
  | s => readUnsigned? false s

/-! ### Integers -/

theorem natAbs_le_of_readUnsigned? {negative : Bool} {s : List Char} {n : Int}
    (h : readUnsigned? negative s = some (.integer n)) : n.natAbs ≤ maxInteger := by
  unfold readUnsigned? at h
  split at h
  · obtain ⟨value, -, read⟩ := Option.map_eq_some_iff.mp h
    split at read
    · have same := Number.integer.inj read
      cases negative <;> simp at same <;> omega
    · cases read
  · split at h <;> cases h

theorem natAbs_le_of_readNumber? {s : List Char} {n : Int}
    (h : readNumber? s = some (.integer n)) : n.natAbs ≤ maxInteger := by
  unfold readNumber? at h
  split at h <;> exact natAbs_le_of_readUnsigned? h

theorem digitsValue?_toString (n : Nat) : digitsValue? (toString n).toList = some n := by
  have value : Nat.ofDigitChars 10 (toString n).toList 0 = n := by
    rw [Nat.toString_eq_ofList_toDigits, String.toList_ofList]
    exact Nat.ofDigitChars_ten_toDigits
  unfold digitsValue?
  split
  · rename_i shape
    -- A zero in front is the whole number.
    rw [Text.toString_of_zero shape] at shape
    cases shape
  · rw [value]

theorem readUnsigned?_toString (negative : Bool) {n : Nat} (h : n ≤ maxInteger) :
    readUnsigned? negative (toString n).toList =
      some (.integer (if negative then -n else n)) := by
  have digits : (toString n).toList.all Char.isDigit = true :=
    List.all_eq_true.mpr fun c => Text.isDigit_of_mem_toString
  rw [readUnsigned?, if_pos ⟨Text.toString_ne_nil n, digits⟩, digitsValue?_toString,
    Option.map_some, if_pos h]

/-- The text of an integer is that of its size, with a sign in front if it is negative. -/
theorem toList_toString (n : Int) :
    (toString n).toList = (if n < 0 then ['-'] else []) ++ (toString n.natAbs).toList := by
  cases n with
  | ofNat n => rfl
  | negSucc n =>
    rw [if_pos (Int.negSucc_lt_zero n), Int.natAbs_negSucc]
    exact String.toList_append

theorem readNumber?_of_isDigit {s : List Char} (h : ∀ c ∈ s, c.isDigit = true) :
    readNumber? s = readUnsigned? false s := by
  unfold readNumber?
  split
  · exact absurd (h '+' List.mem_cons_self) (by decide)
  · exact absurd (h '-' List.mem_cons_self) (by decide)
  · rfl

theorem readNumber?_toString {n : Int} (h : n.natAbs ≤ maxInteger) :
    readNumber? (toString n).toList = some (.integer n) := by
  rw [toList_toString]
  split
  · rename_i negative
    rw [List.singleton_append, readNumber?, readUnsigned?_toString true h, if_pos rfl]
    congr 2
    omega
  · rename_i negative
    rw [List.nil_append, readNumber?_of_isDigit fun c => Text.isDigit_of_mem_toString,
      readUnsigned?_toString false h, if_neg Bool.false_ne_true]
    congr 2
    omega

/-! ### Numbers that keep their texts -/

/-- The text is the decimal form of an integer. -/
def IsInteger (s : String) : Prop :=
  ∃ n : Int, n.natAbs ≤ maxInteger ∧ s = toString n

/-- Takes off the spaces before a piece of code. -/
def dropSpaces (s : List Char) : List Char :=
  s.dropWhile fun c => (Token.mark c).isSpace

/-- The text is read as a float that is written back as this text. -/
def IsFloat (floatText : String → String) (s : String) : Prop :=
  ∃ negative digits, readNumber? (dropSpaces s.toList) = some (.float negative digits) ∧
    (Number.float negative digits).text floatText = s

theorem dropSpaces_toString (n : Int) : dropSpaces (toString n).toList = (toString n).toList := by
  obtain ⟨c, rest, shape, first⟩ : ∃ c rest, (toString n).toList = c :: rest ∧
      (c = '-' ∨ c.isDigit = true) := by
    rw [toList_toString]
    split
    · exact ⟨'-', _, rfl, .inl rfl⟩
    · obtain ⟨c, rest, shape⟩ := List.exists_cons_of_ne_nil (Text.toString_ne_nil n.natAbs)
      exact ⟨c, rest, shape, .inr (Text.isDigit_of_mem_toString (shape ▸ List.mem_cons_self))⟩
  have code : (Token.mark c).isSpace = false := by
    rw [← Bool.not_eq_true]
    simp only [Token.isSpace, Bool.or_eq_true, beq_iff_eq]
    rintro (((rfl | rfl) | rfl) | rfl) <;> simp at first
  rw [dropSpaces, shape, List.dropWhile_cons_of_neg (by simp [code])]

/-- A number is written back as the text it was read from if this is the decimal form of an
integer, and else only as the text of a float. -/
theorem text_readNumber?_iff (floatText : String → String) (s : String) :
    (readNumber? (dropSpaces s.toList)).map (Number.text floatText) = some s ↔
      IsInteger s ∨ IsFloat floatText s := by
  constructor
  · intro h
    obtain ⟨number, read, text⟩ := Option.map_eq_some_iff.mp h
    cases number with
    | integer n => exact .inl ⟨n, natAbs_le_of_readNumber? read, text.symm⟩
    | float negative digits => exact .inr ⟨negative, digits, read, text⟩
  · rintro (⟨n, bounded, rfl⟩ | ⟨negative, digits, read, text⟩)
    · rw [dropSpaces_toString, readNumber?_toString bounded]
      rfl
    · rw [read, Option.map_some, text]

end TableMigration.Php
