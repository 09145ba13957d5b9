import TableMigration.Calendar
import TableMigration.Proofs.Text.Order

/-!
# The order of moments

Moments of the calendar, counted in minutes from the start of the year 0. The count puts moments in
the order of their fields (`minutes_lt_iff`), so what comes a second later has the greater fields
(`Instant.fields_lt`).
-/

namespace TableMigration

namespace Moment

/-! ### The calendar -/

/-- Every fourth year, and of the full centuries every fourth. -/
def IsLeapYear (year : Int) : Prop :=
  year % 4 = 0 ∧ (year % 100 ≠ 0 ∨ year % 400 = 0)

instance (year : Int) : Decidable (IsLeapYear year) :=
  inferInstanceAs (Decidable (year % 4 = 0 ∧ (year % 100 ≠ 0 ∨ year % 400 = 0)))

def monthLength (year : Int) (month : Nat) : Nat :=
  if month = 2 then if IsLeapYear year then 29 else 28
  else if month ∈ [4, 6, 9, 11] then 30
  else 31

/-- The days of the first months of a year. -/
def daysOfMonths (year : Int) : Nat → Nat
  | 0 => 0
  | month + 1 => daysOfMonths year month + monthLength year (month + 1)

def yearLength (year : Int) : Nat :=
  daysOfMonths year 12

/-- The days before a year, from the start of the year 0. -/
def daysBefore (year : Int) : Int :=
  365 * year + (year + 3) / 4 - (year + 99) / 100 + (year + 399) / 400

/-- A time of day on a day of the calendar. A minute may have a leap second, its second 60. -/
structure IsValid (m : Moment) : Prop where
  month_pos : 0 < m.month
  month_le : m.month ≤ 12
  day_pos : 0 < m.day
  day_le : m.day ≤ monthLength m.year m.month
  hour_lt : m.hour < 24
  minute_lt : m.minute < 60
  second_le : m.second ≤ 60

instance (m : Moment) : Decidable m.IsValid :=
  decidable_of_iff (0 < m.month ∧ m.month ≤ 12 ∧ 0 < m.day ∧ m.day ≤ monthLength m.year m.month ∧
      m.hour < 24 ∧ m.minute < 60 ∧ m.second ≤ 60)
    ⟨fun ⟨month_pos, month_le, day_pos, day_le, hour_lt, minute_lt, second_le⟩ =>
      ⟨month_pos, month_le, day_pos, day_le, hour_lt, minute_lt, second_le⟩,
    fun h => ⟨h.month_pos, h.month_le, h.day_pos, h.day_le, h.hour_lt, h.minute_lt, h.second_le⟩⟩

/-- The full days before a moment. -/
def days (m : Moment) : Int :=
  daysBefore m.year + daysOfMonths m.year (m.month - 1) + (m.day - 1 : Nat)

/-- The full minutes before a moment. -/
def minutes (m : Moment) : Int :=
  (m.days * 24 + m.hour) * 60 + m.minute

/-! ### Days -/

theorem yearLength_eq (year : Int) : yearLength year = if IsLeapYear year then 366 else 365 := by
  by_cases leap : IsLeapYear year <;> simp [yearLength, daysOfMonths, monthLength, leap]

theorem daysBefore_succ (year : Int) :
    daysBefore (year + 1) = daysBefore year + yearLength year := by
  rw [yearLength_eq, daysBefore, daysBefore]
  by_cases leap : IsLeapYear year
  · rw [if_pos leap]
    unfold IsLeapYear at leap
    omega
  · rw [if_neg leap]
    unfold IsLeapYear at leap
    omega

theorem daysBefore_mono {year other : Int} (h : year ≤ other) :
    daysBefore year ≤ daysBefore other := by
  rw [daysBefore, daysBefore]
  omega

theorem daysOfMonths_mono (year : Int) {month other : Nat} (h : month ≤ other) :
    daysOfMonths year month ≤ daysOfMonths year other := by
  induction other, h using Nat.le_induction with
  | base => exact Nat.le_refl _
  | succ other _ ih => exact Nat.le_add_right_of_le ih

section

variable {m n : Moment} (hm : m.IsValid)
include hm

theorem daysOfMonths_day_le : daysOfMonths m.year (m.month - 1) + m.day ≤
    daysOfMonths m.year m.month := by
  obtain ⟨month, same⟩ : ∃ month, m.month = month + 1 :=
    ⟨m.month - 1, (Nat.sub_add_cancel hm.month_pos).symm⟩
  have bound := hm.day_le
  rw [same] at bound ⊢
  rw [daysOfMonths, Nat.add_sub_cancel]
  omega

theorem days_lt_of_year_lt (h : m.year < n.year) : m.days < n.days := by
  have day := daysOfMonths_day_le hm
  have positive := hm.day_pos
  have month := daysOfMonths_mono m.year hm.month_le
  have year := daysBefore_mono (Int.add_one_le_of_lt h)
  rw [daysBefore_succ, yearLength] at year
  rw [days, days]
  omega

theorem days_lt_of_month_lt (year : m.year = n.year) (h : m.month < n.month) : m.days < n.days := by
  have day := daysOfMonths_day_le hm
  have positive := hm.day_pos
  have month := daysOfMonths_mono m.year (Nat.le_sub_one_of_lt h)
  rw [days, days, ← year]
  omega

theorem days_lt_of_day_lt (year : m.year = n.year) (month : m.month = n.month)
    (h : m.day < n.day) : m.days < n.days := by
  have positive := hm.day_pos
  rw [days, days, year, month]
  omega

theorem minutes_lt_of_days_lt (h : m.days < n.days) : m.minutes < n.minutes := by
  have hour := hm.hour_lt
  have minute := hm.minute_lt
  rw [minutes, minutes]
  omega

end

/-! ### Minutes -/

/-- The fields of a moment down to its minute. -/
def minuteFields (m : Moment) : List Nat :=
  [m.year.toNat, m.month, m.day, m.hour, m.minute]

def fields (m : Moment) : List Nat :=
  m.minuteFields ++ [m.second]

section

variable {m n : Moment} (early : 0 ≤ m.year) (late : 0 ≤ n.year)
include early late

theorem minutes_eq_of_minuteFields_eq (h : m.minuteFields = n.minuteFields) :
    m.minutes = n.minutes := by
  simp only [minuteFields, List.cons.injEq, and_true] at h
  obtain ⟨year, month, day, hour, minute⟩ := h
  have year : m.year = n.year := by omega
  rw [minutes, minutes, days, days, year, month, day, hour, minute]

theorem minutes_lt_of_minuteFields_lt (hm : m.IsValid) (h : m.minuteFields < n.minuteFields) :
    m.minutes < n.minutes := by
  simp only [minuteFields, List.cons_lt_cons_iff, List.not_lt_nil, and_false, or_false] at h
  rcases h with year | ⟨year, month | ⟨month, day | ⟨day, hour | ⟨hour, minute⟩⟩⟩⟩
  · exact minutes_lt_of_days_lt hm (days_lt_of_year_lt hm (by omega))
  · exact minutes_lt_of_days_lt hm (days_lt_of_month_lt hm (by omega) month)
  · exact minutes_lt_of_days_lt hm (days_lt_of_day_lt hm (by omega) month day)
  all_goals
    have year : m.year = n.year := by omega
    have minute := hm.minute_lt
    rw [minutes, minutes, days, days, year, month, day]
    omega

variable (hm : m.IsValid) (hn : n.IsValid)
include hm hn

/-- Moments come in the order of their fields. -/
theorem minutes_lt_iff : m.minutes < n.minutes ↔ m.minuteFields < n.minuteFields := by
  refine ⟨fun h => ?_, minutes_lt_of_minuteFields_lt early late hm⟩
  rcases lt_trichotomy m.minuteFields n.minuteFields with before | same | after
  · exact before
  · have := minutes_eq_of_minuteFields_eq early late same
    omega
  · have := minutes_lt_of_minuteFields_lt late early hn after
    omega

theorem minutes_eq_iff : m.minutes = n.minutes ↔ m.minuteFields = n.minuteFields := by
  refine ⟨fun h => ?_, minutes_eq_of_minuteFields_eq early late⟩
  rcases lt_trichotomy m.minuteFields n.minuteFields with before | same | after
  · have := minutes_lt_of_minuteFields_lt early late hm before
    omega
  · exact same
  · have := minutes_lt_of_minuteFields_lt late early hn after
    omega

end

end Moment

/-! ### Instants -/

/-- A point of time: the moment that a clock shows, and the billionths of a second since then. -/
structure Instant where
  moment : Moment
  isValid : moment.IsValid
  billionths : Nat
  billionths_lt : billionths < 10 ^ 9

namespace Instant

/-- The billionths of a second since the clock showed a full minute. -/
def inMinute (t : Instant) : Nat :=
  t.moment.second * 10 ^ 9 + t.billionths

/-- The time from an instant to a later one in billionths of a second. A minute with a leap second
takes a second longer. -/
def elapsed (first second : Instant) : Int :=
  (second.moment.minutes - first.moment.minutes) * (60 * 10 ^ 9) +
    (second.inMinute - first.inMinute) +
    if first.moment.second = 60 ∧ first.moment.minutes < second.moment.minutes then 10 ^ 9 else 0

/-- What comes a second later has the greater fields. -/
theorem fields_lt {first second : Instant} (early : 0 ≤ first.moment.year)
    (late : 0 ≤ second.moment.year) (h : 10 ^ 9 ≤ first.elapsed second) :
    first.moment.fields < second.moment.fields := by
  have order := Moment.minutes_lt_iff early late first.isValid second.isValid
  have same := Moment.minutes_eq_iff early late first.isValid second.isValid
  have fraction := first.billionths_lt
  have fraction' := second.billionths_lt
  have seconds := second.isValid.second_le
  have length : first.moment.minuteFields.length = second.moment.minuteFields.length := rfl
  rw [elapsed, inMinute, inMinute] at h
  rw [Moment.fields, Moment.fields, Text.append_lt_append_iff length]
  rcases Int.lt_trichotomy first.moment.minutes second.moment.minutes with before | equal | after
  · exact .inl (order.mp before)
  · rw [if_neg (by omega)] at h
    refine .inr ⟨same.mp equal, List.cons_lt_cons_iff.mpr (.inl ?_)⟩
    omega
  · -- Even a leap second reaches less than a second into the next minute.
    rw [if_neg (by omega)] at h
    omega

end Instant

end TableMigration
