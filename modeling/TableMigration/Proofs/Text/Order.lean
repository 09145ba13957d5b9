import Mathlib.Data.List.Lex
import Mathlib.Tactic.Ring

/-!
# The order of texts

Texts are compared at the first place where they differ. So fronts of one length decide before what
follows them (`append_lt_append_iff`), and digits of one length have the order of their numbers
(`digits_lt_iff`).
-/

namespace TableMigration.Text

theorem append_lt_append_iff {α : Type} [LT α] {s t : List α} (length : s.length = t.length)
    (a b : List α) : s ++ a < t ++ b ↔ s < t ∨ s = t ∧ a < b := by
  induction s generalizing t with
  | nil =>
    obtain rfl := List.length_eq_zero_iff.mp length.symm
    simp
  | cons c s ih =>
    obtain ⟨d, t, rfl⟩ := List.exists_cons_of_length_eq_add_one length.symm
    have shorter : s.length = t.length := by simpa using length
    rw [List.cons_append, List.cons_append, List.cons_lt_cons_iff, List.cons_lt_cons_iff,
      ih shorter, List.cons.injEq]
    tauto

theorem append_lt_append_left_iff {α : Type} [LT α] [Std.Irrefl (α := α) (· < ·)]
    (s a b : List α) : s ++ a < s ++ b ↔ a < b := by
  rw [append_lt_append_iff rfl, or_iff_right (List.lt_irrefl s), and_iff_right rfl]

/-! ### Digits -/

theorem toNat_of_isDigit {c : Char} (h : c.isDigit = true) :
    '0'.toNat ≤ c.toNat ∧ c.toNat - '0'.toNat < 10 := by
  have bounds : 48 ≤ c.val.toNat ∧ c.val.toNat ≤ 57 := by
    simpa [Char.isDigit, UInt32.le_iff_toNat_le] using h
  have : c.toNat = c.val.toNat := rfl
  have : '0'.toNat = 48 := rfl
  omega

/-- A smaller first digit counts more than all digits behind it. -/
theorem mul_add_lt_mul {first other rest base : Nat} (h : first < other) (small : rest < base) :
    first * base + rest < other * base :=
  calc
    first * base + rest < first * base + base := Nat.add_lt_add_left small _
    _ = (first + 1) * base := by ring
    _ ≤ other * base := Nat.mul_le_mul_right _ h

theorem ofDigitChars_cons (c : Char) (digits : List Char) :
    Nat.ofDigitChars 10 (c :: digits) 0 =
      (c.toNat - '0'.toNat) * 10 ^ digits.length + Nat.ofDigitChars 10 digits 0 := by
  rw [Nat.ofDigitChars_cons, Nat.ofDigitChars_eq_ofDigitChars_zero]
  ring

theorem ofDigitChars_lt {digits : List Char} (h : ∀ c ∈ digits, c.isDigit = true) :
    Nat.ofDigitChars 10 digits 0 < 10 ^ digits.length := by
  induction digits with
  | nil => exact Nat.one_pos
  | cons c digits ih =>
    have rest := ih fun d member => h d (List.mem_cons_of_mem _ member)
    have first := (toNat_of_isDigit (h c List.mem_cons_self)).2
    rw [ofDigitChars_cons, List.length_cons, pow_succ, Nat.mul_comm (10 ^ _)]
    exact mul_add_lt_mul first rest

/-- Digits of one length are compared like numbers. -/
theorem digits_lt_iff {s t : List Char} (hs : ∀ c ∈ s, c.isDigit = true)
    (ht : ∀ c ∈ t, c.isDigit = true) (length : s.length = t.length) :
    s < t ↔ Nat.ofDigitChars 10 s 0 < Nat.ofDigitChars 10 t 0 := by
  induction s generalizing t with
  | nil =>
    obtain rfl := List.length_eq_zero_iff.mp length.symm
    simp
  | cons c s ih =>
    obtain ⟨d, t, rfl⟩ := List.exists_cons_of_length_eq_add_one length.symm
    have shorter : s.length = t.length := by simpa using length
    have first := toNat_of_isDigit (hs c List.mem_cons_self)
    have first' := toNat_of_isDigit (ht d List.mem_cons_self)
    have others : ∀ c ∈ s, c.isDigit = true := fun c member => hs c (List.mem_cons_of_mem _ member)
    have others' : ∀ c ∈ t, c.isDigit = true := fun c member => ht c (List.mem_cons_of_mem _ member)
    have small := ofDigitChars_lt others
    have small' := ofDigitChars_lt others'
    rw [List.cons_lt_cons_iff, ih others others' shorter, ofDigitChars_cons, ofDigitChars_cons,
      shorter]
    rw [shorter] at small
    have smaller : c < d ↔ c.toNat < d.toNat := Iff.rfl
    -- The first digit that differs decides, as the digits behind it count less together.
    rcases Nat.lt_trichotomy c.toNat d.toNat with before | same | after
    · have less := mul_add_lt_mul (Nat.sub_lt_sub_right first.1 before) small
      exact iff_of_true (.inl before) (Nat.lt_add_right _ less)
    · obtain rfl := Char.toNat_inj.mp same
      simp
    · have more := mul_add_lt_mul (Nat.sub_lt_sub_right first'.1 after) small'
      refine iff_of_false ?_ (Nat.not_lt.mpr (Nat.le_add_right_of_le more.le))
      rintro (less | ⟨rfl, -⟩)
      · exact Nat.lt_asymm less after
      · exact Nat.lt_irrefl _ after

end TableMigration.Text
