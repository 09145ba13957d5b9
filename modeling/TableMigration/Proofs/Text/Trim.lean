import Mathlib.Data.List.DropRight
import TableMigration.Text.Basic

/-!
# Trimming

What trimming takes off and what it leaves. `trim_pad` says that blanks around a text do not count,
and `trim_cons_append_cons` that nothing between two other characters is taken off.
-/

namespace TableMigration.Text

theorem dropEndWhile_concat {α : Type} (p : α → Bool) (l : List α) (a : α) :
    dropEndWhile p (l ++ [a]) = if p a then dropEndWhile p l else l ++ [a] := by
  induction l with
  | nil => cases h : p a <;> simp [dropEndWhile, h]
  | cons b rest ih =>
    rw [List.cons_append, dropEndWhile, ih]
    cases h : p a with
    | true => simp [dropEndWhile]
    | false => simp

/-- Taking elements off the end is the library's `rdropWhile`. -/
theorem dropEndWhile_eq_rdropWhile {α : Type} (p : α → Bool) (l : List α) :
    dropEndWhile p l = l.rdropWhile p := by
  induction l using List.reverseRecOn with
  | nil => rfl
  | append_singleton l a ih => rw [dropEndWhile_concat, List.rdropWhile_concat, ih]

theorem trimEnd_eq (s : List Char) : trimEnd s = s.rdropWhile isBlank :=
  dropEndWhile_eq_rdropWhile isBlank s

theorem trimStart_pad {blanks : List Char} (h : ∀ c ∈ blanks, isBlank c = true) (s : List Char) :
    trimStart (blanks ++ s) = trimStart s :=
  List.dropWhile_append_of_pos h

theorem trimEnd_pad {blanks : List Char} (h : ∀ c ∈ blanks, isBlank c = true) (s : List Char) :
    trimEnd (s ++ blanks) = trimEnd s := by
  rw [trimEnd_eq, trimEnd_eq, List.rdropWhile, List.rdropWhile, List.reverse_append,
    List.dropWhile_append_of_pos fun c member => h c (List.mem_reverse.mp member)]

theorem trimStart_of_not_blank {c : Char} (h : isBlank c = false) (rest : List Char) :
    trimStart (c :: rest) = c :: rest := by
  simp [trimStart, h]

/-- Trimming the end stops at the last character that is not blank. -/
theorem trimEnd_append_cons (before : List Char) {c : Char} (h : isBlank c = false)
    (rest : List Char) : trimEnd (before ++ c :: rest) = before ++ c :: trimEnd rest := by
  induction rest using List.reverseRecOn with
  | nil => rw [trimEnd_eq, List.rdropWhile_concat_neg _ _ _ (by simp [h])]; simp [trimEnd_eq]
  | append_singleton rest d ih =>
    simp only [trimEnd_eq] at ih ⊢
    rw [← List.cons_append, ← List.append_assoc, List.rdropWhile_concat, List.rdropWhile_concat, ih]
    split <;> simp

theorem trim_eq_nil_iff {s : List Char} : trim s = [] ↔ ∀ c ∈ s, isBlank c = true := by
  rw [trim, trimEnd_eq, List.rdropWhile_eq_nil_iff]
  constructor
  · intro blanks c member
    by_contra mark
    have kept : c ∈ trimStart s := by
      rw [← List.takeWhile_append_dropWhile (p := isBlank) (l := s), List.mem_append] at member
      exact member.resolve_left fun taken => mark (List.mem_takeWhile_imp taken)
    exact mark (blanks c kept)
  · intro blanks c member
    exact blanks c ((List.dropWhile_sublist isBlank).subset member)

/-- Blanks around a text do not count. -/
theorem trim_pad {before after : List Char} (hb : ∀ c ∈ before, isBlank c = true)
    (ha : ∀ c ∈ after, isBlank c = true) (s : List Char) :
    trim (before ++ (s ++ after)) = trim s := by
  rw [trim, trimStart_pad hb]
  by_cases blank : ∀ c ∈ s, isBlank c = true
  · rw [trim_eq_nil_iff.mpr blank]
    exact trim_eq_nil_iff.mpr fun c member =>
      (List.mem_append.mp member).elim (blank c) (ha c)
  · rw [trimStart, List.dropWhile_append, if_neg (by simpa using blank), trimEnd_pad ha]
    rfl

theorem blank_of_mem_replicate {n : Nat} {c : Char} (h : c ∈ List.replicate n ' ') :
    isBlank c = true := by
  rw [List.eq_of_mem_replicate h]
  decide

/-- Trimming takes blanks off the two ends. -/
theorem exists_trim (s : List Char) :
    ∃ before after, s = before ++ (trim s ++ after) ∧ (∀ c ∈ before, isBlank c = true) ∧
      ∀ c ∈ after, isBlank c = true := by
  refine ⟨s.takeWhile isBlank, (trimStart s).rtakeWhile isBlank, ?_,
    fun _ => List.mem_takeWhile_imp, fun _ => List.mem_rtakeWhile_imp⟩
  rw [trim, trimEnd_eq, List.rdropWhile_append_rtakeWhile]
  exact List.takeWhile_append_dropWhile.symm

theorem mem_trim_iff {c : Char} (mark : isBlank c = false) {s : List Char} :
    c ∈ trim s ↔ c ∈ s := by
  obtain ⟨before, after, shape, front, back⟩ := exists_trim s
  have absent : ∀ {blanks : List Char}, (∀ d ∈ blanks, isBlank d = true) → c ∉ blanks := by
    intro blanks all member
    rw [all c member] at mark
    cases mark
  conv_rhs => rw [shape]
  simp [absent front, absent back]

theorem length_trim_le (s : List Char) : (trim s).length ≤ s.length := by
  obtain ⟨before, after, shape, -, -⟩ := exists_trim s
  have lengths := congrArg List.length shape
  rw [List.length_append, List.length_append] at lengths
  omega

theorem trim_pad_ne {before after : List Char} (hb : ∀ c ∈ before, isBlank c = true)
    (ha : ∀ c ∈ after, isBlank c = true) (s : List Char) (padded : before ++ after ≠ []) :
    trim (before ++ (s ++ after)) ≠ before ++ (s ++ after) := by
  intro same
  have shorter := length_trim_le s
  have some := List.length_pos_of_ne_nil padded
  rw [trim_pad hb ha] at same
  rw [same, List.length_append, List.length_append] at shorter
  rw [List.length_append] at some
  omega

/-- Trimming leaves a text as it is if there is no blank at either end. -/
theorem trim_eq_self_iff {s : List Char} :
    trim s = s ↔ (∀ c ∈ s.head?, isBlank c = false) ∧ ∀ c ∈ s.getLast?, isBlank c = false := by
  have nothing : ∀ c ∈ ([] : List Char), isBlank c = true := by simp
  constructor
  · intro tight
    constructor
    · intro c first
      by_contra blank
      rw [Bool.not_eq_false] at blank
      obtain ⟨rest, rfl⟩ := List.head?_eq_some_iff.mp first
      exact trim_pad_ne (List.forall_mem_singleton.mpr blank) nothing rest (by simp)
        (by simpa using tight)
    · intro c last
      by_contra blank
      rw [Bool.not_eq_false] at blank
      obtain ⟨front, rfl⟩ := List.getLast?_eq_some_iff.mp last
      exact trim_pad_ne nothing (List.forall_mem_singleton.mpr blank) front (by simp) tight
  · rintro ⟨first, last⟩
    rcases List.eq_nil_or_concat s with rfl | ⟨front, d, rfl⟩
    · rfl
    · rw [List.concat_eq_append] at first last ⊢
      have start : trimStart (front ++ [d]) = front ++ [d] := by
        cases front with
        | nil => exact trimStart_of_not_blank (first d rfl) []
        | cons c rest => exact trimStart_of_not_blank (first c rfl) _
      rw [trim, start, trimEnd_append_cons front (last d (by simp))]
      rfl

theorem trim_trim (s : List Char) : trim (trim s) = trim s := by
  obtain ⟨before, after, shape, hb, ha⟩ := exists_trim s
  have padded := trim_pad hb ha (trim s)
  rwa [← shape, eq_comm] at padded

theorem trim_cons_append_cons {c d : Char} (hc : isBlank c = false) (hd : isBlank d = false)
    (middle rest : List Char) :
    trim (c :: (middle ++ d :: rest)) = c :: (middle ++ d :: trimEnd rest) := by
  rw [trim, trimStart_of_not_blank hc, ← List.cons_append, trimEnd_append_cons _ hd,
    List.cons_append]

theorem trim_trimEnd (s : List Char) : trim (trimEnd s) = trim s := by
  have blank : ∀ c ∈ s.rtakeWhile isBlank, isBlank c = true := fun _ => List.mem_rtakeWhile_imp
  have parts : s = trimEnd s ++ s.rtakeWhile isBlank := by
    rw [trimEnd_eq, List.rdropWhile_append_rtakeWhile]
  conv_rhs => rw [parts]
  have nothing : ∀ c ∈ ([] : List Char), isBlank c = true := by simp
  exact (trim_pad nothing blank (trimEnd s)).symm

theorem mem_of_mem_trimEnd {c : Char} {s : List Char} (h : c ∈ trimEnd s) : c ∈ s := by
  rw [trimEnd_eq] at h
  exact (List.rdropWhile_prefix isBlank _).subset h

theorem mem_of_mem_trim {c : Char} {s : List Char} (h : c ∈ trim s) : c ∈ s :=
  (List.dropWhile_sublist isBlank).subset (mem_of_mem_trimEnd h)

end TableMigration.Text
