import TableMigration.Proofs.Text.Decimal
import TableMigration.Statement.Literal

/-!
# Characters of numbers

What a name that reads as a number is made of. `not_mem_of_isNumeric` keeps quotes, commas and
brackets out of such a name, so it can stand in a statement without quotes.
-/

namespace TableMigration.Statement

/-- A character that a number can have. -/
def isNumberChar (c : Char) : Bool :=
  Text.isBlank c || c.isDigit || "+-.eE".toList.contains c

/-- A character that stands in a number itself, not before it. -/
def isNumeralChar (c : Char) : Bool :=
  c.isDigit || "+-.eE".toList.contains c

theorem isNumberChar_of_isNumeralChar {c : Char} (h : isNumeralChar c = true) :
    isNumberChar c = true := by
  rw [isNumberChar, Bool.or_assoc, Bool.or_eq_true]
  exact .inr h

theorem isBlank_of_isNumeralChar {c : Char} (h : isNumeralChar c = true) :
    Text.isBlank c = false := by
  have marks : "+-.eE".toList.all (!Text.isBlank ·) = true := by decide
  rw [isNumeralChar, Bool.or_eq_true, List.contains_iff_mem] at h
  rcases h with digit | mark
  · exact Text.isBlank_of_isDigit digit
  · simpa using List.all_eq_true.mp marks c mark

theorem isNumeralChar_of_isDigit {c : Char} (h : c.isDigit = true) : isNumeralChar c = true := by
  simp [isNumeralChar, h]

theorem isNumeralChar_of_isExponentMark {c : Char} (h : isExponentMark c = true) :
    isNumeralChar c = true := by
  simp only [isExponentMark, Bool.or_eq_true, beq_iff_eq] at h
  rcases h with rfl | rfl <;> decide

theorem isNumeralChar_of_mem_dropSign {s : List Char}
    (h : ∀ c ∈ dropSign s, isNumeralChar c = true) : ∀ c ∈ s, isNumeralChar c = true := by
  unfold dropSign at h
  split at h
  · exact List.forall_mem_cons.mpr ⟨by decide, h⟩
  · exact List.forall_mem_cons.mpr ⟨by decide, h⟩
  · exact h

theorem isNumeralChar_of_isMantissa {s : List Char} (h : isMantissa s = true) :
    ∀ c ∈ s, isNumeralChar c = true := by
  simp only [isMantissa, Bool.and_eq_true, List.all_eq_true] at h
  obtain ⟨⟨whole, fraction⟩, -⟩ := h
  intro c member
  rw [← List.takeWhile_append_dropWhile (p := (· != '.')) (l := s), List.mem_append] at member
  rcases member with before | after
  · exact isNumeralChar_of_isDigit (whole c before)
  · cases point : s.dropWhile (· != '.') with
    | nil => simp [point] at after
    | cons d rest =>
      have stop := List.head_dropWhile_not (p := (· != '.')) (l := s) (by simp [point])
      simp only [point, List.head_cons, bne_eq_false_iff_eq] at stop
      rw [point, List.mem_cons] at after
      rcases after with rfl | later
      · rw [stop]
        decide
      · exact isNumeralChar_of_isDigit (fraction c (by simpa [point] using later))

theorem isNumeralChar_of_isExponent {s : List Char} (h : isExponent s = true)
    (mark : ∀ c ∈ s.head?, isExponentMark c = true) : ∀ c ∈ s, isNumeralChar c = true := by
  cases s with
  | nil => simp
  | cons d rest =>
    simp only [isExponent, Bool.and_eq_true, List.all_eq_true] at h
    have digits := isNumeralChar_of_mem_dropSign fun c member =>
      isNumeralChar_of_isDigit (h.2 c member)
    exact List.forall_mem_cons.mpr ⟨isNumeralChar_of_isExponentMark (mark d rfl), digits⟩

theorem isNumeralChar_of_isNumeric {s : String} (h : isNumeric s = true) :
    ∀ c ∈ Text.trimStart s.toList, isNumeralChar c = true := by
  simp only [isNumeric, Bool.and_eq_true] at h
  obtain ⟨mantissa, exponent⟩ := h
  apply isNumeralChar_of_mem_dropSign
  generalize dropSign (Text.trimStart s.toList) = number at mantissa exponent ⊢
  intro c member
  rw [← List.takeWhile_append_dropWhile (p := (!isExponentMark ·)) (l := number),
    List.mem_append] at member
  rcases member with before | after
  · exact isNumeralChar_of_isMantissa mantissa c before
  · refine isNumeralChar_of_isExponent exponent (fun d first => ?_) c after
    have stop := List.head?_dropWhile_not (!isExponentMark ·) number
    rw [first] at stop
    simpa using stop

theorem isNumberChar_of_isNumeric {s : String} (h : isNumeric s = true) :
    ∀ c ∈ s.toList, isNumberChar c = true := by
  intro c member
  rw [← List.takeWhile_append_dropWhile (p := Text.isBlank) (l := s.toList), List.mem_append] at member
  rcases member with blank | later
  · have blank : Text.isBlank c = true := List.mem_takeWhile_imp blank
    simp [isNumberChar, blank]
  · exact isNumberChar_of_isNumeralChar (isNumeralChar_of_isNumeric h c later)

theorem not_mem_of_isNumeric {s : String} (h : isNumeric s = true) {c : Char}
    (other : isNumberChar c = false) : c ∉ s.toList := by
  intro member
  rw [isNumberChar_of_isNumeric h c member] at other
  cases other

theorem ne_empty_of_isNumeric {s : String} (h : isNumeric s = true) : s ≠ "" := by
  rintro rfl
  exact absurd h (by decide)

end TableMigration.Statement
