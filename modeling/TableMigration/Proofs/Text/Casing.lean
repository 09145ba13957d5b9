import Mathlib
import TableMigration.Text.Basic
import TableMigration.Text.Case
import TableMigration.Text.CharClass

/-!
# Letters and their case

ASCII texts are lowered letter by letter (`lower_ascii`), and lowering a text never puts a line
feed, a slash or another such mark into it (`not_mem_lower`).
-/

namespace TableMigration.Text

/-! ### ASCII letters -/

theorem toNat_lt_of_isAlpha {c : Char} (h : c.isAlpha = true) : c.toNat < 128 := by
  simp only [Char.isAlpha, Char.isUpper, Char.isLower, Bool.or_eq_true, Bool.and_eq_true,
    decide_eq_true_eq, ge_iff_le, UInt32.le_iff_toNat_le] at h
  have : c.toNat = c.val.toNat := rfl
  rcases h with h | h
  · have : c.val.toNat ≤ 90 := h.2
    omega
  · have : c.val.toNat ≤ 122 := h.2
    omega

theorem isWordChar_of_isAlpha {c : Char} (h : c.isAlpha = true) : isWordChar c = true := by
  simp [isWordChar, toNat_lt_of_isAlpha h, Char.isAlphanum, h]

theorem isWordChar_of_letters {word : List Char} (h : word.all Char.isAlpha = true) :
    ∀ c ∈ word, isWordChar c = true := fun c member =>
  isWordChar_of_isAlpha (List.all_eq_true.mp h c member)

theorem forall_ascii {P : Char → Prop} (h : ∀ n < 128, P (Char.ofNat n)) {c : Char}
    (ascii : c.toNat < 128) : P c := by
  rw [← Char.ofNat_toNat c]
  exact h c.toNat ascii

theorem isAlpha_of_toLower {c : Char} (h : c.toLower.isAlpha = true) : c.isAlpha = true := by
  by_cases upper : c.val ≥ 'A'.val ∧ c.val ≤ 'Z'.val
  · rw [Char.isAlpha, Char.isUpper, decide_eq_true upper]
    rfl
  · rwa [Char.toLower, dif_neg upper] at h

/-! ### Word characters -/

def blankCodes : List Nat :=
  [9, 10, 11, 12, 13, 0x20, 0x85, 0xA0, 0x1680, 0x2000, 0x2001, 0x2002, 0x2003, 0x2004, 0x2005,
    0x2006, 0x2007, 0x2008, 0x2009, 0x200A, 0x2028, 0x2029, 0x202F, 0x205F, 0x3000]

theorem toNat_mem_blankCodes {c : Char} (h : isBlank c = true) : c.toNat ∈ blankCodes := by
  simp only [isBlank, Bool.or_eq_true, Bool.and_eq_true, decide_eq_true_eq, beq_iff_eq] at h
  simp only [blankCodes, List.mem_cons, List.not_mem_nil, or_false]
  omega

theorem isBlank_of_isWordChar {c : Char} (h : isWordChar c = true) : isBlank c = false := by
  have apart : ∀ code ∈ blankCodes, isWordChar (Char.ofNat code) = false := by decide +kernel
  by_contra blank
  have no := apart c.toNat (toNat_mem_blankCodes (by simpa using blank))
  rw [Char.ofNat_toNat, h] at no
  cases no

/-! ### Lowering -/

theorem lowerFrom_ascii (before : List Char) {s : List Char} (ascii : ∀ c ∈ s, c.toNat < 128) :
    lowerFrom before s = s.map Char.toLower := by
  induction s generalizing before with
  | nil => rfl
  | cons c rest ih =>
    have hc := ascii c List.mem_cons_self
    have sigma : c ≠ 'Σ' := by
      rintro rfl
      exact absurd hc (by decide)
    rw [lowerFrom, if_neg sigma, lowerChar, if_pos hc, List.map_cons,
      ih _ fun d member => ascii d (List.mem_cons_of_mem _ member)]
    rfl

theorem lower_ascii {s : List Char} (ascii : ∀ c ∈ s, c.toNat < 128) :
    lower (String.ofList s) = String.ofList (s.map Char.toLower) := by
  rw [lower, String.toList_ofList, lowerFrom_ascii [] ascii]

section

/-! A mark before the capitals, such as a slash or a line feed, comes from no other character. -/

variable {mark : Char} (early : 0 < mark.toNat ∧ mark.toNat < 0x41)
include early

theorem mark_ne_ofNat {code : Nat} (h : 0x40 < code) : mark ≠ Char.ofNat code := by
  rintro rfl
  rw [Char.ofNat] at early
  split at early
  · have value : (Char.ofNatAux code ‹_›).toNat = code := rfl
    omega
  · exact absurd early.1 (by decide)

theorem mark_ne_map {spans : List CaseSpan}
    (above : ∀ span ∈ spans, 0x40 < (span.first : Int) + span.shift) {c : Char} (h : mark ≠ c) :
    mark ≠ CaseSpan.map spans c := by
  rw [CaseSpan.map]
  cases found : spans.findSome? (·.image? c.toNat) with
  | none => exact h
  | some code =>
    obtain ⟨span, member, image⟩ := List.exists_of_findSome?_eq_some found
    have bound := above span member
    rw [CaseSpan.image?] at image
    split at image
    · have value := Option.some.inj image
      exact mark_ne_ofNat early (by omega)
    · cases image

theorem not_mem_lowerChar {c : Char} (h : mark ≠ c) : mark ∉ lowerChar c := by
  rw [lowerChar]
  split
  · rename_i ascii
    have kept : c.toLower = c ∨ 0x40 < c.toLower.toNat :=
      forall_ascii (P := fun c => c.toLower = c ∨ 0x40 < c.toLower.toNat) (by decide) ascii
    rcases kept with same | late
    · simpa [same] using h
    · rw [List.mem_singleton]
      rintro rfl
      omega
  · split
    · intro member
      rcases List.mem_pair.mp member with rfl | rfl <;> exact absurd early (by decide)
    · have above : ∀ span ∈ wideLowerSpans, 0x40 < (span.first : Int) + span.shift := by
        decide +kernel
      simpa using mark_ne_map early above h

theorem not_mem_lowerFrom (before : List Char) {s : List Char} (h : mark ∉ s) :
    mark ∉ lowerFrom before s := by
  induction s generalizing before with
  | nil => exact h
  | cons c rest ih =>
    rw [List.mem_cons, not_or] at h
    rw [lowerFrom, List.mem_append]
    rintro (first | later)
    · -- A capital sigma becomes one of two letters, neither of them a mark.
      split at first
      · have same := List.mem_singleton.mp first
        have late : 0x40 < mark.toNat := by
          rw [same, lowerSigma]
          split <;> decide
        omega
      · exact not_mem_lowerChar early h.1 first
    · exact ih _ h.2 later

theorem not_mem_lower {s : String} (h : mark ∉ s.toList) : mark ∉ (lower s).toList := by
  rw [lower, String.toList_ofList]
  exact not_mem_lowerFrom early [] h

theorem not_mem_upperChar {c : Char} (h : mark ≠ c) : mark ∉ upperChar c := by
  -- Every capital is either the character itself or lies behind the marks.
  rw [upperChar]
  split
  · rename_i ascii
    have kept : c.toUpper = c ∨ 0x40 < c.toUpper.toNat :=
      forall_ascii (P := fun c => c.toUpper = c ∨ 0x40 < c.toUpper.toNat) (by decide) ascii
    rcases kept with same | late
    · simpa [same] using h
    · rw [List.mem_singleton]
      rintro rfl
      omega
  · split
    · rename_i form found
      have forms : (upperExpansions.all fun entry => entry.2.all (0x40 < ·.toNat)) = true := by
        decide +kernel
      obtain ⟨before, after, split, -⟩ := List.lookup_eq_some_iff.mp found
      have entry : (c, form) ∈ upperExpansions := by
        rw [split]
        simp
      intro member
      have late := List.all_eq_true.mp (List.all_eq_true.mp forms _ entry) mark member
      rw [decide_eq_true_eq] at late
      omega
    · have above : ∀ span ∈ wideUpperSpans, 0x40 < (span.first : Int) + span.shift := by
        decide +kernel
      simpa using mark_ne_map early above h

theorem not_mem_capitalize {s : List Char} (h : mark ∉ s) : mark ∉ capitalize s := by
  cases s with
  | nil => exact h
  | cons c rest =>
    rw [List.mem_cons, not_or] at h
    rw [capitalize, List.mem_append, not_or]
    exact ⟨not_mem_upperChar early h.1, h.2⟩

end

end TableMigration.Text
