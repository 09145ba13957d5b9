import TableMigration.Proofs.Calendar
import TableMigration.Proofs.Naming

/-!
# The order of file names

The fields of a time stamp have fixed widths, so stamps are compared like their fields
(`laidOut_append_lt_iff`). Hence the file names of migrations come in the order of time
(`fileName_chronological`).
-/

namespace TableMigration

namespace Moment

/-! ### Padded numbers -/

section

variable {width n k : Nat}

theorem length_padded (positive : 0 < width) (h : n < 10 ^ width) :
    (padded width n).toList.length = width := by
  have short : (Nat.toDigits 10 n).length ≤ width :=
    (Nat.length_toDigits_le_iff (by decide) positive).mpr h
  rw [padded, String.toList_ofList, List.length_append, List.length_replicate]
  exact Nat.sub_add_cancel short

theorem ofDigitChars_padded (width n : Nat) :
    Nat.ofDigitChars 10 (padded width n).toList 0 = n := by
  rw [padded, String.toList_ofList, Nat.ofDigitChars_append, Nat.ofDigitChars_replicate_zero,
    Nat.mul_zero, Nat.ofDigitChars_ten_toDigits]

theorem padded_inj : (padded width n).toList = (padded width k).toList ↔ n = k := by
  refine ⟨fun same => ?_, fun same => same ▸ rfl⟩
  calc
    n = Nat.ofDigitChars 10 (padded width n).toList 0 := (ofDigitChars_padded width n).symm
    _ = Nat.ofDigitChars 10 (padded width k).toList 0 := by rw [same]
    _ = k := ofDigitChars_padded width k

theorem padded_lt_iff (length : (padded width n).toList.length = (padded width k).toList.length) :
    (padded width n).toList < (padded width k).toList ↔ n < k := by
  rw [Text.digits_lt_iff (fun _ => isDigit_of_mem_padded) (fun _ => isDigit_of_mem_padded) length,
    ofDigitChars_padded, ofDigitChars_padded]

end

/-! ### Stamps -/

/-- Numbers in decimal, each with zeros up to its width and a mark behind it. -/
def laidOut : List (Nat × String) → List Nat → List Char
  | (width, mark) :: layout, n :: numbers =>
    (padded width n).toList ++ (mark.toList ++ laidOut layout numbers)
  | _, _ => []

/-- A number that its field has room for. -/
def Fits (field : Nat × String) (n : Nat) : Prop :=
  0 < field.1 ∧ n < 10 ^ field.1

/-- Rows of fields are compared like the numbers in them, and what follows them decides only between
equal rows. -/
theorem laidOut_append_lt_iff {layout : List (Nat × String)} {numbers others : List Nat}
    (h : List.Forall₂ Fits layout numbers) (h' : List.Forall₂ Fits layout others)
    (a b : List Char) : laidOut layout numbers ++ a < laidOut layout others ++ b ↔
      numbers < others ∨ numbers = others ∧ a < b := by
  induction h generalizing others with
  | nil =>
    cases h'
    simp [laidOut]
  | @cons field n layout numbers fits _ ih =>
    obtain ⟨k, others, fits', rest', rfl⟩ := List.forall₂_cons_left_iff.mp h'
    -- Fields of one width: the first that differs decides, whatever follows.
    have length : (padded field.1 n).toList.length = (padded field.1 k).toList.length :=
      (length_padded fits.1 fits.2).trans (length_padded fits'.1 fits'.2).symm
    simp only [laidOut, List.append_assoc]
    rw [Text.append_lt_append_iff length, Text.append_lt_append_left_iff, padded_lt_iff length,
      padded_inj, ih rest', List.cons_lt_cons_iff, List.cons.injEq, and_or_left, or_assoc,
      and_assoc]

/-- The widths of the fields of a stamp and the marks behind them. -/
def layout : List (Nat × String) :=
  [(4, "_"), (2, "_"), (2, "_"), (2, ""), (2, ""), (2, "_")]

section

variable {m : Moment} (years : 0 ≤ m.year ∧ m.year < 10000)
include years

theorem toList_stamp : (m.stamp ++ "_").toList = laidOut layout m.fields := by
  have year : yearText m.year = padded 4 m.year.toNat := by
    rw [yearText, if_pos years, show m.year.natAbs = m.year.toNat by omega]
  simp [stamp_eq, year, laidOut, layout, fields, minuteFields]

theorem fits_fields (h : m.IsValid) : List.Forall₂ Fits layout m.fields := by
  have month := h.month_le
  have day := h.day_le
  have hour := h.hour_lt
  have minute := h.minute_lt
  have second := h.second_le
  have month_days : monthLength m.year m.month ≤ 31 := by
    rw [monthLength]
    split_ifs <;> decide
  simp only [layout, fields, minuteFields, Fits, List.cons_append, List.nil_append,
    List.forall₂_cons, List.forall₂_nil_left_iff, and_true]
  omega

end

end Moment

/-! ### File names -/

namespace Naming

theorem toList_fileName (table : String) (m : Moment) : (fileName table (some m)).toList =
    (m.stamp ++ "_").toList ++ (fileName table none).toList :=
  String.toList_append

/-- Stamps that are a second apart decide the order of two file names, and equal stamps leave it to
the rest of the names. -/
theorem fileName_chronological (table other : String) :
    (∀ first second : Instant, 0 ≤ first.moment.year ∧ first.moment.year < 10000 →
      0 ≤ second.moment.year ∧ second.moment.year < 10000 → 10 ^ 9 ≤ first.elapsed second →
      fileName table (some first.moment) < fileName other (some second.moment)) ∧
    ∀ moment : Moment, compare (fileName table (some moment)) (fileName other (some moment)) =
      compare (fileName table none) (fileName other none) := by
  constructor
  · intro first second early late apart
    rw [String.lt_iff_toList_lt, toList_fileName, toList_fileName, Moment.toList_stamp early,
      Moment.toList_stamp late,
      Moment.laidOut_append_lt_iff (Moment.fits_fields early first.isValid)
        (Moment.fits_fields late second.isValid)]
    exact .inl (Instant.fields_lt early.1 late.1 apart)
  · intro moment
    have order : fileName table (some moment) < fileName other (some moment) ↔
        fileName table none < fileName other none := by
      rw [String.lt_iff_toList_lt, String.lt_iff_toList_lt, toList_fileName, toList_fileName,
        Text.append_lt_append_left_iff]
    have same : fileName table (some moment) = fileName other (some moment) ↔
        fileName table none = fileName other none := by
      rw [← String.toList_inj, ← String.toList_inj, toList_fileName, toList_fileName,
        List.append_cancel_left_eq]
    simp only [compare, String.compare, compareOfLessAndEq, order, same]

/-- The last minute of a day with a leap second, and the day after it. -/
theorem fileName_chronological_leap_second :
    let first : Instant := ⟨⟨2016, 12, 31, 23, 59, 60⟩, by decide, 500000000, by decide⟩
    let second : Instant := ⟨⟨2017, 1, 1, 0, 0, 0⟩, by decide, 500000000, by decide⟩
    10 ^ 9 ≤ first.elapsed second ∧
      fileName "users" (some first.moment) < fileName "posts" (some second.moment) :=
  ⟨by decide, (fileName_chronological "users" "posts").1 _ _ (by decide) (by decide) (by decide)⟩

end Naming

end TableMigration
