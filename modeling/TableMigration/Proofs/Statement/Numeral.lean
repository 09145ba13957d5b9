import TableMigration.Proofs.Php.Pieces
import TableMigration.Proofs.Statement.Number

/-!
# The grammar of numbers

The texts that a statement writes without quotes: blanks, a sign, digits around a point, and an
exponent. `isNumeric_iff` says that these and no others read as numbers.
-/

namespace TableMigration.Statement

/-! ### The grammar -/

/-- One or more digits. -/
structure Digits (s : List Char) : Prop where
  nonempty : s ≠ []
  digit : ∀ c ∈ s, c.isDigit = true

/-- At most one sign. -/
inductive Sign : List Char → Prop where
  | absent : Sign []
  | plus : Sign ['+']
  | minus : Sign ['-']

/-- Digits, with a point and more digits behind them or not, or a point before digits. -/
inductive Mantissa : List Char → Prop where
  | whole {digits : List Char} : Digits digits → Mantissa digits
  | point {digits fraction : List Char} :
      Digits digits → (∀ c ∈ fraction, c.isDigit = true) → Mantissa (digits ++ '.' :: fraction)
  | fraction {digits : List Char} : Digits digits → Mantissa ('.' :: digits)

/-- A mark with a number of its own behind it, or nothing. -/
inductive Exponent : List Char → Prop where
  | absent : Exponent []
  | power {mark : Char} {sign digits : List Char} :
      mark = 'e' ∨ mark = 'E' → Sign sign → Digits digits → Exponent (mark :: (sign ++ digits))

/-- A number without a sign. -/
inductive Unsigned : List Char → Prop where
  | intro {mantissa exponent : List Char} :
      Mantissa mantissa → Exponent exponent → Unsigned (mantissa ++ exponent)

/-- A number, with any blanks before it and nothing behind it. -/
inductive Numeral : List Char → Prop where
  | intro {blanks sign number : List Char} :
      (∀ c ∈ blanks, Text.isBlank c = true) → Sign sign → Unsigned number →
        Numeral (blanks ++ (sign ++ number))

/-! ### Signs -/

theorem isSign_dropSign (s : List Char) : ∃ sign, Sign sign ∧ s = sign ++ dropSign s := by
  unfold dropSign
  split
  · exact ⟨['+'], .plus, rfl⟩
  · exact ⟨['-'], .minus, rfl⟩
  · exact ⟨[], .absent, rfl⟩

theorem dropSign_of_ne {c : Char} (plus : c ≠ '+') (minus : c ≠ '-') (rest : List Char) :
    dropSign (c :: rest) = c :: rest := by
  unfold dropSign
  split
  · rename_i same
    exact absurd (List.cons.inj same).1 plus
  · rename_i same
    exact absurd (List.cons.inj same).1 minus
  · rfl

/-- A first character that is neither a sign nor a blank. -/
def StartsUnsigned (s : List Char) : Prop :=
  ∃ c rest, s = c :: rest ∧ (c.isDigit = true ∨ c = '.')

theorem Sign.dropSign_append {sign rest : List Char} (h : Sign sign) (start : StartsUnsigned rest) :
    dropSign (sign ++ rest) = rest := by
  cases h with
  | plus => rfl
  | minus => rfl
  | absent =>
    obtain ⟨c, tail, rfl, inside⟩ := start
    refine dropSign_of_ne ?_ ?_ tail
    all_goals
      rintro rfl
      simp at inside

theorem Sign.trimStart_append {sign rest : List Char} (h : Sign sign)
    (start : StartsUnsigned rest) : Text.trimStart (sign ++ rest) = sign ++ rest := by
  cases h with
  | plus => exact Text.trimStart_of_not_blank (by decide) rest
  | minus => exact Text.trimStart_of_not_blank (by decide) rest
  | absent =>
    obtain ⟨c, tail, rfl, digit | rfl⟩ := start
    · exact Text.trimStart_of_not_blank (Text.isBlank_of_isDigit digit) tail
    · exact Text.trimStart_of_not_blank (by decide) tail

theorem Digits.start {s : List Char} (h : Digits s) : StartsUnsigned s := by
  obtain ⟨c, tail, rfl⟩ := List.exists_cons_of_ne_nil h.nonempty
  exact ⟨c, tail, rfl, .inl (h.digit c List.mem_cons_self)⟩

/-! ### Mantissas -/

theorem Mantissa.start {s : List Char} (h : Mantissa s) : StartsUnsigned s := by
  cases h with
  | whole digits => exact digits.start
  | point digits _ =>
    obtain ⟨c, tail, rfl, inside⟩ := digits.start
    exact ⟨c, _, rfl, inside⟩
  | fraction => exact ⟨'.', _, rfl, .inr rfl⟩

theorem Mantissa.mem {s : List Char} (h : Mantissa s) {c : Char} (member : c ∈ s) :
    c.isDigit = true ∨ c = '.' := by
  cases h with
  | whole digits => exact .inl (digits.digit c member)
  | point digits fraction =>
    rcases List.mem_append.mp member with before | after
    · exact .inl (digits.digit c before)
    · exact (List.mem_cons.mp after).symm.imp_left (fraction c)
  | fraction digits => exact (List.mem_cons.mp member).symm.imp_left (digits.digit c)

theorem point_not_mem_of_digits {s : List Char} (h : ∀ c ∈ s, c.isDigit = true) : '.' ∉ s :=
  fun member => absurd (h '.' member) (by decide)

theorem isMantissa_of_digits {s : List Char} (h : Digits s) : isMantissa s = true := by
  have before : ∀ c ∈ s, (c != '.') = true := fun c member =>
    bne_iff_ne.mpr fun same => point_not_mem_of_digits h.digit (same ▸ member)
  have whole : s.takeWhile (· != '.') = s := List.takeWhile_eq_self_iff.mpr before
  have after : s.dropWhile (· != '.') = [] := List.dropWhile_eq_nil_iff.mpr before
  simp only [isMantissa, whole, after, Bool.and_eq_true, List.all_eq_true]
  exact ⟨⟨h.digit, by simp⟩, by simpa using h.nonempty⟩

theorem isMantissa_append_point {digits fraction : List Char}
    (before : ∀ c ∈ digits, c.isDigit = true) (behind : ∀ c ∈ fraction, c.isDigit = true)
    (nonempty : digits ≠ [] ∨ fraction ≠ []) : isMantissa (digits ++ '.' :: fraction) = true := by
  have apart := point_not_mem_of_digits before
  simp only [isMantissa, Php.takeWhile_append_mark apart, Php.dropWhile_append_mark apart,
    List.drop_one, List.tail_cons, Bool.and_eq_true, List.all_eq_true]
  refine ⟨⟨before, behind⟩, ?_⟩
  rcases nonempty with h | h <;> simp [h]

theorem isMantissa_iff {s : List Char} : isMantissa s = true ↔ Mantissa s := by
  constructor
  · intro h
    have split := List.takeWhile_append_dropWhile (p := (· != '.')) (l := s)
    simp only [isMantissa, Bool.and_eq_true, List.all_eq_true] at h
    obtain ⟨⟨whole, fraction⟩, nonempty⟩ := h
    -- What stands from the first point on is nothing, or the point and a fraction.
    cases after : s.dropWhile (· != '.') with
    | nil =>
      rw [after, List.append_nil] at split
      rw [split, after] at nonempty
      exact .whole ⟨by simpa using nonempty, split ▸ whole⟩
    | cons c rest =>
      have point := List.head_dropWhile_not (p := (· != '.')) (l := s) (by simp [after])
      simp only [after, List.head_cons, bne_eq_false_iff_eq] at point
      rw [after, List.drop_one, List.tail_cons] at fraction nonempty
      rw [← split, after, point]
      cases front : s.takeWhile (· != '.') with
      | nil => exact .fraction ⟨by simpa [front] using nonempty, fraction⟩
      | cons d digits => exact .point ⟨by simp, front ▸ whole⟩ fraction
  · intro h
    cases h with
    | whole digits => exact isMantissa_of_digits digits
    | point digits fraction =>
      exact isMantissa_append_point digits.digit fraction (.inl digits.nonempty)
    | fraction digits =>
      have before : ∀ c ∈ ([] : List Char), c.isDigit = true := by simp
      exact isMantissa_append_point before digits.digit (.inr digits.nonempty)

/-! ### Exponents -/

theorem isExponentMark_iff {c : Char} : isExponentMark c = true ↔ c = 'e' ∨ c = 'E' := by
  simp [isExponentMark]

theorem not_isExponentMark {c : Char} (h : c.isDigit = true ∨ c = '.') :
    (!isExponentMark c) = true := by
  rw [Bool.not_eq_true', ← Bool.not_eq_true, isExponentMark_iff]
  rintro (rfl | rfl) <;> simp at h

theorem Exponent.mark {s : List Char} (h : Exponent s) :
    ∀ c ∈ s.head?, isExponentMark c = true := by
  cases h with
  | absent => simp
  | power mark => simpa [isExponentMark_iff] using mark

theorem isExponent_iff {s : List Char} (mark : ∀ c ∈ s.head?, isExponentMark c = true) :
    isExponent s = true ↔ Exponent s := by
  constructor
  · intro h
    cases s with
    | nil => exact .absent
    | cons c rest =>
      simp only [isExponent, Bool.and_eq_true, List.all_eq_true] at h
      obtain ⟨sign, signed, split⟩ := isSign_dropSign rest
      rw [split]
      exact .power (isExponentMark_iff.mp (mark c rfl)) signed ⟨by simpa using h.1, h.2⟩
  · intro h
    cases h with
    | absent => rfl
    | power _ sign digits =>
      rw [isExponent, sign.dropSign_append digits.start, Bool.and_eq_true, List.all_eq_true]
      exact ⟨by simpa using digits.nonempty, digits.digit⟩

/-! ### Numbers -/

theorem cut_at_exponent {mantissa exponent : List Char} (h : Mantissa mantissa)
    (mark : ∀ c ∈ exponent.head?, isExponentMark c = true) :
    (mantissa ++ exponent).takeWhile (!isExponentMark ·) = mantissa ∧
      (mantissa ++ exponent).dropWhile (!isExponentMark ·) = exponent := by
  have before : ∀ c ∈ mantissa, (!isExponentMark c) = true := fun c member =>
    not_isExponentMark (h.mem member)
  rw [List.takeWhile_append_of_pos before, List.dropWhile_append_of_pos before]
  cases exponent with
  | nil => simp
  | cons c rest => simp [mark c rfl]

theorem unsigned_iff {s : List Char} :
    (isMantissa (s.takeWhile (!isExponentMark ·)) = true ∧
      isExponent (s.dropWhile (!isExponentMark ·)) = true) ↔ Unsigned s := by
  constructor
  · -- What the cut leaves is nothing, or starts with a mark.
    rintro ⟨mantissa, exponent⟩
    have mark : ∀ c ∈ (s.dropWhile (!isExponentMark ·)).head?, isExponentMark c = true := by
      intro c first
      have stop := List.head?_dropWhile_not (!isExponentMark ·) s
      rw [first] at stop
      simpa using stop
    rw [← List.takeWhile_append_dropWhile (p := (!isExponentMark ·)) (l := s)]
    exact .intro (isMantissa_iff.mp mantissa) ((isExponent_iff mark).mp exponent)
  · rintro ⟨mantissa, exponent⟩
    obtain ⟨front, back⟩ := cut_at_exponent mantissa exponent.mark
    rw [front, back]
    exact ⟨isMantissa_iff.mpr mantissa, (isExponent_iff exponent.mark).mpr exponent⟩

instance (s : List Char) : Decidable (Unsigned s) :=
  decidable_of_iff _ unsigned_iff

theorem Unsigned.start {s : List Char} (h : Unsigned s) : StartsUnsigned s := by
  obtain ⟨mantissa, _⟩ := h
  obtain ⟨c, tail, rfl, inside⟩ := mantissa.start
  exact ⟨c, _, rfl, inside⟩

theorem numeral_of_isNumeric {v : String} (h : isNumeric v = true) : Numeral v.toList := by
  rw [isNumeric, Bool.and_eq_true, unsigned_iff] at h
  obtain ⟨sign, signed, split⟩ := isSign_dropSign (Text.trimStart v.toList)
  have blanks := List.takeWhile_append_dropWhile (p := Text.isBlank) (l := v.toList)
  rw [← blanks, ← Text.trimStart, split]
  exact .intro (fun c member => List.mem_takeWhile_imp member) signed h

theorem isNumeric_of_numeral {v : String} (h : Numeral v.toList) : isNumeric v = true := by
  rw [isNumeric, Bool.and_eq_true, unsigned_iff]
  generalize v.toList = s at h
  obtain ⟨blanks, sign, number⟩ := h
  rwa [Text.trimStart_pad blanks, sign.trimStart_append number.start,
    sign.dropSign_append number.start]

/-- The texts that read as numbers are those of the grammar. -/
theorem isNumeric_iff (v : String) : isNumeric v = true ↔ Numeral v.toList :=
  ⟨numeral_of_isNumeric, isNumeric_of_numeral⟩

end TableMigration.Statement
