import TableMigration.Proofs.Dump.Rows
import TableMigration.Proofs.Text.Decimal

/-!
# Well-formed lines

What each dump asks of a line. The reader of its rows accepts exactly the lines that have it
(`columns_readBy`, `indexes_readBy`, `foreignKeys_readBy`), and carriage returns at the end of a line
make no difference to that.
-/

namespace TableMigration.Dump

/-- The pieces of a line between its tabs. -/
def fieldsOf (line : List Char) : List (List Char) :=
  line.splitOn '\t'

/-- Between blanks, an unsigned decimal number of 64 bits that is not zero, with at most one plus
sign before it. -/
def IsPosition (field : List Char) : Prop :=
  ∃ digits, (Text.trim field = digits ∨ Text.trim field = '+' :: digits) ∧ digits ≠ [] ∧
    (∀ c ∈ digits, c.isDigit = true) ∧
    1 ≤ Nat.ofDigitChars 10 digits 0 ∧ Nat.ofDigitChars 10 digits 0 ≤ 2 ^ 64 - 1

namespace Kind

/-- What a dump asks of each line with a row. -/
def WellFormed (line : List Char) : Kind → Prop
  | columns => (fieldsOf line).length = 7
  | indexes => 6 ≤ (fieldsOf line).length ∧ ∃ field, (fieldsOf line)[3]? = some field ∧ IsPosition field
  | foreignKeys => (fieldsOf line).length = 6

/-- What is wrong with a line that is not well-formed. -/
def faultOf (line : List Char) (kind : Kind) : RowFault :=
  match kind, fieldsOf line with
  | indexes, _ :: _ :: _ :: position :: _ :: _ :: _ => .position (String.ofList position)
  | _, fields => .fieldCount fields.length

/-- The reader accepts the well-formed lines of a dump, and says of any other what is wrong. -/
structure ReadBy {α : Type} (kind : Kind) (read : List Char → Except RowFault α) : Prop where
  accepts : ∀ line, kind.WellFormed line → ∃ row, read line = .ok row
  refuses : ∀ line, ¬kind.WellFormed line → read line = .error (kind.faultOf line)

end Kind

/-! ### Positions -/

/-- Digits are accepted as a position if their value is one. -/
theorem exists_position_iff (digits : List Char) :
    (∃ n, (if digits.isEmpty || !digits.all Char.isDigit then none
      else if 0 < decimalValue digits ∧ decimalValue digits ≤ maxPosition then
        some (decimalValue digits) else none) = some n) ↔
      digits ≠ [] ∧ (∀ c ∈ digits, c.isDigit = true) ∧
        1 ≤ Nat.ofDigitChars 10 digits 0 ∧ Nat.ofDigitChars 10 digits 0 ≤ 2 ^ 64 - 1 := by
  rw [← decimalValue_eq]
  by_cases decimal : digits ≠ [] ∧ ∀ c ∈ digits, c.isDigit = true
  · obtain ⟨nonempty, digit⟩ := decimal
    rw [if_neg (by simpa [nonempty] using digit)]
    have bounds : 0 < decimalValue digits ∧ decimalValue digits ≤ maxPosition ↔
        1 ≤ decimalValue digits ∧ decimalValue digits ≤ 2 ^ 64 - 1 := Iff.rfl
    by_cases bounded : 0 < decimalValue digits ∧ decimalValue digits ≤ maxPosition
    · rw [if_pos bounded]
      exact ⟨fun _ => ⟨nonempty, digit, bounds.mp bounded⟩, fun _ => ⟨_, rfl⟩⟩
    · rw [if_neg bounded]
      exact ⟨nofun, fun number => absurd (bounds.mpr number.2.2) bounded⟩
  · rw [if_pos (by by_contra digit; exact decimal (by simpa using digit))]
    exact ⟨nofun, fun number => absurd ⟨number.1, number.2.1⟩ decimal⟩

theorem readPosition?_isSome {field : List Char} :
    (∃ n, readPosition? field = some n) ↔ IsPosition field := by
  unfold readPosition? IsPosition
  split
  · rename_i rest signed
    rw [signed]
    refine (exists_position_iff rest).trans ⟨fun number => ⟨rest, .inr rfl, number⟩, ?_⟩
    rintro ⟨digits, whole | tail, number⟩
    · exact absurd (number.2.1 '+' (whole ▸ List.mem_cons_self)) (by decide)
    · exact (List.cons.inj tail).2 ▸ number
  · rename_i text unsigned
    refine (exists_position_iff _).trans ⟨fun number => ⟨_, .inl rfl, number⟩, ?_⟩
    rintro ⟨digits, whole | tail, number⟩
    · exact whole ▸ number
    · exact absurd tail (unsigned digits)

/-! ### Readers of lines -/

theorem columns_readBy : Kind.columns.ReadBy ColumnRow.read where
  accepts := by
    intro line h
    have seven : ((line.splitOn '\t').map String.ofList).length = 7 := by rwa [List.length_map]
    unfold ColumnRow.read
    generalize (line.splitOn '\t').map String.ofList = fields at seven ⊢
    match fields, seven with
    | [_, _, _, _, _, _, _], _ => exact ⟨_, rfl⟩
  refuses := by
    intro line h
    have other : ((line.splitOn '\t').map String.ofList).length ≠ 7 := by rwa [List.length_map]
    unfold ColumnRow.read
    split
    · rename_i cut
      exact absurd (congrArg List.length cut) other
    · rw [List.length_map]
      rfl

theorem foreignKeys_readBy : Kind.foreignKeys.ReadBy ForeignKeyRow.read where
  accepts := by
    intro line h
    have six : ((line.splitOn '\t').map String.ofList).length = 6 := by rwa [List.length_map]
    unfold ForeignKeyRow.read
    generalize (line.splitOn '\t').map String.ofList = fields at six ⊢
    match fields, six with
    | [_, _, _, _, _, _], _ => exact ⟨_, rfl⟩
  refuses := by
    intro line h
    have other : ((line.splitOn '\t').map String.ofList).length ≠ 6 := by rwa [List.length_map]
    unfold ForeignKeyRow.read
    split
    · rename_i cut
      exact absurd (congrArg List.length cut) other
    · rw [List.length_map]
      rfl

/-- Cutting at the first separators leaves the last piece as long as it is. -/
theorem cutAtFirst_eq (separator : Char) (n : Nat) (s : List Char) :
    cutAtFirst separator n s =
      if n < (s.splitOn separator).length then
        (s.splitOn separator).take n ++ [[separator].intercalate ((s.splitOn separator).drop n)]
      else s.splitOn separator := by
  induction n generalizing s with
  | zero =>
    rw [cutAtFirst, if_pos (List.length_pos_of_ne_nil (List.splitOn_ne_nil _ _))]
    simp [List.intercalate_splitOn]
  | succ n ih =>
    have first : separator ∉ s.takeWhile (· != separator) := by
      intro member
      simpa using List.mem_takeWhile_imp member
    -- The first piece ends at the first separator, and the others are cut from what is behind it.
    have whole := List.takeWhile_append_dropWhile (p := (· != separator)) (l := s)
    rw [cutAtFirst]
    split
    · rename_i none
      rw [none, List.append_nil] at whole
      rw [whole] at first
      rw [List.splitOn_eq_singleton first, if_neg (by simp)]
    · rename_i c rest found
      have separates : c = separator := by
        have kept := List.head?_dropWhile_not (· != separator) s
        rw [found] at kept
        simpa using kept
      rw [found, separates] at whole
      rw [← whole, List.splitOn_append_cons_self_of_not_mem first, whole, ih]
      simp only [List.length_cons, Nat.add_lt_add_iff_right, List.take_succ_cons, List.drop_succ_cons]
      split <;> rfl

/-- A line of the dump of indexes is cut at its first five tabs, so its position is the fourth of its
pieces whatever follows. -/
theorem indexes_readBy : Kind.indexes.ReadBy IndexRow.read where
  accepts := by
    rintro line ⟨several, position, fourth, number⟩
    obtain ⟨n, read⟩ := readPosition?_isSome.mpr number
    unfold IndexRow.read
    rw [cutAtFirst_eq, if_pos (by exact several)]
    unfold fieldsOf at several fourth
    match line.splitOn '\t', several, fourth with
    | _ :: _ :: _ :: _ :: _ :: _ :: _, _, fourth =>
      obtain rfl := Option.some.inj fourth
      simp [read]
  refuses := by
    intro line h
    unfold IndexRow.read Kind.faultOf
    rw [cutAtFirst_eq]
    unfold Kind.WellFormed fieldsOf at *
    match line.splitOn '\t', h with
    | [], _ | [_], _ | [_, _], _ | [_, _, _], _ | [_, _, _, _], _ | [_, _, _, _, _], _ => rfl
    | _ :: _ :: _ :: position :: _ :: _ :: _, h =>
      have unread : readPosition? position = none := by
        cases read : readPosition? position with
        | none => rfl
        | some n => exact absurd ⟨by simp, position, rfl, readPosition?_isSome.mp ⟨n, read⟩⟩ h
      simp [unread]

/-! ### Carriage returns at the end -/

theorem splitOn_append_of_not_mem {a : Char} {t : List Char} (h : a ∉ t) (s : List Char) :
    ∃ pieces last, s.splitOn a = pieces ++ [last] ∧ (s ++ t).splitOn a = pieces ++ [last ++ t] := by
  induction s with
  | nil => exact ⟨[], [], List.splitOn_nil a, List.splitOn_eq_singleton h⟩
  | cons c s ih =>
    obtain ⟨pieces, last, before, after⟩ := ih
    rw [List.cons_append, List.splitOn_cons_eq_if_modifyHead, List.splitOn_cons_eq_if_modifyHead,
      before, after]
    split
    · exact ⟨[] :: pieces, last, rfl, rfl⟩
    · cases pieces with
      | nil => exact ⟨[], c :: last, rfl, rfl⟩
      | cons piece pieces => exact ⟨(c :: piece) :: pieces, last, rfl, rfl⟩

/-- Only the last field of a line knows how the line ends. -/
theorem fieldsOf_stripped (line : List Char) :
    ∃ fields last returns, fieldsOf (line.rdropWhile (· == '\r')) = fields ++ [last] ∧
      fieldsOf line = fields ++ [last ++ returns] := by
  have noTab : '\t' ∉ line.rtakeWhile (· == '\r') := fun member =>
    absurd (List.mem_rtakeWhile_imp member) (by decide)
  obtain ⟨fields, last, stripped, whole⟩ :=
    splitOn_append_of_not_mem noTab (line.rdropWhile (· == '\r'))
  rw [List.rdropWhile_append_rtakeWhile] at whole
  exact ⟨fields, last, _, stripped, whole⟩

namespace Kind

theorem wellFormed_stripped (kind : Kind) (line : List Char) :
    kind.WellFormed (line.rdropWhile (· == '\r')) ↔ kind.WellFormed line := by
  obtain ⟨fields, last, returns, stripped, whole⟩ := fieldsOf_stripped line
  cases kind with
  | columns => simp [WellFormed, stripped, whole]
  | foreignKeys => simp [WellFormed, stripped, whole]
  | indexes =>
    unfold WellFormed
    rw [stripped, whole, List.length_append, List.length_append]
    refine and_congr_right fun several => ?_
    have before : 3 < fields.length := by simp at several; omega
    rw [List.getElem?_append_left before, List.getElem?_append_left before]

theorem faultOf_stripped (kind : Kind) (line : List Char) :
    kind.faultOf (line.rdropWhile (· == '\r')) = kind.faultOf line := by
  obtain ⟨fields, last, returns, stripped, whole⟩ := fieldsOf_stripped line
  unfold faultOf
  rw [stripped, whole]
  cases kind with
  | columns => simp
  | foreignKeys => simp
  | indexes =>
    match fields with
    | [] | [_] | [_, _] | [_, _, _] | [_, _, _, _] => rfl
    | _ :: _ :: _ :: _ :: _ :: more => cases more <;> rfl

end Kind

end TableMigration.Dump
