import Mathlib.Data.List.DropRight
import TableMigration.Dump.Reader
import TableMigration.Proofs.Text.Casing
import TableMigration.Proofs.Text.Order
import TableMigration.Proofs.Text.Trim

/-!
# Numbers in decimal

The digits of a number read back as the number (`readPosition?_toString`), and are neither blanks
nor breaks.
-/

namespace TableMigration.Text

theorem isBlank_of_isDigit {c : Char} (h : c.isDigit = true) : isBlank c = false := by
  refine isBlank_of_isWordChar ?_
  have small : c.toNat < 128 := by
    have digit := (toNat_of_isDigit h).2
    have : '0'.toNat = 48 := rfl
    omega
  simp [isWordChar, small, Char.isAlphanum, h]

theorem isDigit_of_mem_toString {n : Nat} {c : Char} (h : c ∈ (toString n).toList) :
    c.isDigit = true := by
  rw [Nat.toString_eq_ofList_toDigits, String.toList_ofList] at h
  exact Nat.isDigit_of_mem_toDigits (by decide) (by decide) h

theorem toString_ne_nil (n : Nat) : (toString n).toList ≠ [] := by
  rw [Nat.toString_eq_ofList_toDigits, String.toList_ofList]
  exact Nat.toDigits_ne_nil

theorem head?_toDigits {n : Nat} (h : (Nat.toDigits 10 n).head? = some '0') : n = 0 := by
  induction n using Nat.strong_induction_on with
  | h n ih =>
    rcases Nat.lt_or_ge n 10 with small | large
    · rw [Nat.toDigits_of_lt_base small] at h
      have : ∀ n < 10, some (Nat.digitChar n) = some '0' → n = 0 := by decide
      exact this n small h
    · rw [Nat.toDigits_of_base_le (by decide) large,
        List.head?_append_of_ne_nil _ Nat.toDigits_ne_nil] at h
      have := ih (n / 10) (by omega) h
      omega

theorem toString_of_zero {n : Nat} {rest : List Char} (h : (toString n).toList = '0' :: rest) :
    n = 0 := by
  rw [Nat.toString_eq_ofList_toDigits, String.toList_ofList] at h
  exact head?_toDigits (by rw [h]; rfl)

theorem trim_of_not_blank {s : List Char} (h : ∀ c ∈ s, isBlank c = false) : trim s = s := by
  have start : trimStart s = s := by
    cases s with
    | nil => rfl
    | cons c rest => exact trimStart_of_not_blank (h c List.mem_cons_self) rest
  rw [trim, start, trimEnd_eq, List.rdropWhile_eq_self_iff]
  intro nonempty
  simp [h _ (List.getLast_mem nonempty)]

end TableMigration.Text

namespace TableMigration.Dump

theorem decimalValue_eq (digits : List Char) :
    decimalValue digits = Nat.ofDigitChars 10 digits 0 := by
  unfold decimalValue
  simp only [Nat.ofDigitChars_eq_foldl, Nat.mul_comm 10]

theorem decimalValue_toString (n : Nat) : decimalValue (toString n).toList = n := by
  rw [Nat.toString_eq_ofList_toDigits, String.toList_ofList, decimalValue_eq]
  exact Nat.ofDigitChars_ten_toDigits

/-- A position written in decimal reads back. -/
theorem readPosition?_toString {n : Nat} (positive : 0 < n) (bounded : n ≤ maxPosition) :
    readPosition? (toString n).toList = some n := by
  have digits : ∀ c ∈ (toString n).toList, c.isDigit = true := fun _ => Text.isDigit_of_mem_toString
  have trimmed : Text.trim (toString n).toList = (toString n).toList :=
    Text.trim_of_not_blank fun c member => Text.isBlank_of_isDigit (digits c member)
  rw [readPosition?, trimmed]
  split
  · rename_i signed
    exact absurd (digits '+' (signed ▸ List.mem_cons_self)) (by decide)
  · rw [decimalValue_toString, if_neg, if_pos ⟨positive, bounded⟩]
    simpa [Text.toString_ne_nil] using digits

end TableMigration.Dump
