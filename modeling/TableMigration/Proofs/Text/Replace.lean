import Mathlib.Data.List.Infix
import TableMigration.Text.Basic

/-!
# Writing over occurrences

Where a pattern does not occur nothing changes, and a character that is not in the pattern keeps
the texts on its two sides apart (`replaceAll_append_cons`). So a text of lines is written over line
by line (`replaceAll_lines`).
-/

namespace TableMigration.Text

theorem occursIn_iff {pattern s : List Char} : occursIn pattern s = true ↔ pattern <:+: s := by
  induction s with
  | nil => rw [occursIn, List.isEmpty_iff, List.infix_nil]
  | cons c rest ih =>
    rw [occursIn, Bool.or_eq_true, List.isPrefixOf_iff_prefix, ih, List.infix_cons_iff]

theorem contains_iff {s pattern : String} :
    contains s pattern = true ↔ pattern.toList <:+: s.toList :=
  occursIn_iff

theorem contains_eq_false_iff {s pattern : String} :
    contains s pattern = false ↔ ¬pattern.toList <:+: s.toList := by
  rw [← Bool.not_eq_true, contains_iff]

/-- A pattern at the front of two texts with a foreign character between them is at the front of the
first. -/
theorem prefix_of_append_cons {pattern a b : List Char} {c : Char} (foreign : c ∉ pattern)
    (h : pattern <+: a ++ c :: b) : pattern <+: a := by
  rcases Nat.lt_or_ge a.length pattern.length with longer | shorter
  · obtain ⟨rest, whole⟩ := h
    have place := congrArg (·[a.length]?) whole
    rw [List.getElem?_append_left longer, List.getElem?_append_right (Nat.le_refl _), Nat.sub_self,
      List.getElem?_cons_zero] at place
    exact absurd (List.mem_of_getElem? place) foreign
  · exact List.prefix_of_prefix_length_le h (List.prefix_append a _) shorter

theorem infix_of_append_cons {pattern a b : List Char} {c : Char} (foreign : c ∉ pattern)
    (h : pattern <:+: a ++ c :: b) : pattern <:+: a ∨ pattern <:+: b := by
  induction a with
  | nil =>
    rcases List.infix_cons_iff.mp h with front | later
    · exact .inl (prefix_of_append_cons (a := []) foreign front).isInfix
    · exact .inr later
  | cons d a ih =>
    rcases List.infix_cons_iff.mp h with front | later
    · exact .inl (prefix_of_append_cons foreign front).isInfix
    · exact (ih later).imp_left fun inside => inside.trans (List.suffix_cons d a).isInfix

theorem not_infix_of_foreign {pattern a : List Char} (nonempty : pattern ≠ [])
    (foreign : ∀ c ∈ a, c ∉ pattern) : ¬pattern <:+: a := by
  obtain ⟨c, rest, rfl⟩ := List.exists_cons_of_ne_nil nonempty
  exact fun inside => foreign c (inside.subset List.mem_cons_self) List.mem_cons_self

/-- A pattern is not found sooner or later for foreign characters around a text. -/
theorem infix_of_surrounded {pattern a b s : List Char} (nonempty : pattern ≠ [])
    (before : ∀ c ∈ a, c ∉ pattern) (after : ∀ c ∈ b, c ∉ pattern)
    (h : pattern <:+: a ++ (s ++ b)) : pattern <:+: s := by
  -- Foreign characters are taken off the front one by one, then off the end.
  induction a with
  | nil =>
    cases b with
    | nil => simpa using h
    | cons c b =>
      rw [List.forall_mem_cons] at after
      exact (infix_of_append_cons after.1 h).resolve_right (not_infix_of_foreign nonempty after.2)
  | cons c a ih =>
    rw [List.forall_mem_cons] at before
    refine ih before.2 ((infix_of_append_cons (a := []) before.1 h).resolve_left fun none => ?_)
    exact nonempty (List.eq_nil_of_infix_nil none)

section

variable {pattern new : List Char}

theorem replaceFrom_of_not_infix {s : List Char} (h : ¬pattern <:+: s) :
    replaceFrom pattern new 0 s = s := by
  induction s with
  | nil => rfl
  | cons c rest ih =>
    rw [List.infix_cons_iff, not_or] at h
    rw [replaceFrom, if_neg (by simpa using h.1), ih h.2]

theorem replaceAll_of_not_infix {s : List Char} (h : ¬pattern <:+: s) :
    replaceAll pattern new s = s :=
  replaceFrom_of_not_infix h

theorem replaceFrom_append_cons {c : Char} (foreign : c ∉ pattern) (nonempty : pattern ≠ [])
    {skip : Nat} {a : List Char} (h : skip ≤ a.length) (b : List Char) :
    replaceFrom pattern new skip (a ++ c :: b) =
      replaceFrom pattern new skip a ++ c :: replaceFrom pattern new 0 b := by
  induction a generalizing skip with
  | nil =>
    obtain rfl : skip = 0 := by simpa using h
    have apart : ¬pattern <+: c :: b := fun front =>
      nonempty (List.prefix_nil.mp (prefix_of_append_cons (a := []) foreign front))
    rw [List.nil_append, replaceFrom, List.nil_append, replaceFrom,
      if_neg (by rwa [List.isPrefixOf_iff_prefix])]
  | cons d a ih =>
    cases skip with
    | succ skip => exact ih (by simpa using h)
    | zero =>
      rw [List.cons_append, replaceFrom, replaceFrom]
      by_cases front : pattern <+: d :: a
      · have long := front.length_le
        have longer : pattern <+: d :: (a ++ c :: b) :=
          front.trans (List.prefix_append (d :: a) (c :: b))
        rw [List.length_cons] at long
        rw [if_pos (List.isPrefixOf_iff_prefix.mpr longer),
          if_pos (List.isPrefixOf_iff_prefix.mpr front), ih (by omega), List.append_assoc]
      · have apart : ¬pattern <+: d :: (a ++ c :: b) := fun longer =>
          front (prefix_of_append_cons (a := d :: a) foreign longer)
        rw [if_neg (by rwa [List.isPrefixOf_iff_prefix]),
          if_neg (by rwa [List.isPrefixOf_iff_prefix]), ih (Nat.zero_le _), List.cons_append]

/-- A character that is not in the pattern keeps the texts on its two sides apart. -/
theorem replaceAll_append_cons {c : Char} (foreign : c ∉ pattern) (nonempty : pattern ≠ [])
    (a b : List Char) :
    replaceAll pattern new (a ++ c :: b) = replaceAll pattern new a ++ c :: replaceAll pattern new b :=
  replaceFrom_append_cons foreign nonempty (Nat.zero_le _) b

theorem replaceFrom_length (s : List Char) : replaceFrom pattern new s.length s = [] := by
  induction s with
  | nil => rfl
  | cons c rest ih => exact ih

theorem replaceAll_self (nonempty : pattern ≠ []) : replaceAll pattern new pattern = new := by
  obtain ⟨c, rest, rfl⟩ := List.exists_cons_of_ne_nil nonempty
  rw [replaceAll, replaceFrom, if_pos (by simp), List.length_cons, Nat.add_sub_cancel,
    replaceFrom_length, List.append_nil]

/-- A text of lines is written over line by line. -/
theorem replaceAll_lines (oneLine : '\n' ∉ pattern) (nonempty : pattern ≠ [])
    (lines : List (List Char)) :
    replaceAll pattern new (lines.flatMap (· ++ ['\n'])) =
      (lines.map (replaceAll pattern new)).flatMap (· ++ ['\n']) := by
  induction lines with
  | nil => rfl
  | cons line lines ih =>
    rw [List.flatMap_cons, List.append_assoc, List.singleton_append,
      replaceAll_append_cons oneLine nonempty, ih, List.map_cons, List.flatMap_cons,
      List.append_assoc, List.singleton_append]

end

end TableMigration.Text
