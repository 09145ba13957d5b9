import Mathlib.Tactic.SplitIfs
import TableMigration.File.Path
import TableMigration.Proofs.Text.OneLine

/-!
# Steps of paths

The steps of a path put together from others (`steps_join`, `steps_ofSteps`).
-/

namespace TableMigration.File

/-- A name that an entry can have. -/
structure IsName (name : String) : Prop where
  nonempty : name ≠ ""
  noSlash : '/' ∉ name.toList
  moves : name ≠ "." ∧ name ≠ ".."

instance (name : String) : Decidable (IsName name) :=
  decidable_of_iff (name ≠ "" ∧ '/' ∉ name.toList ∧ name ≠ "." ∧ name ≠ "..")
    ⟨fun ⟨nonempty, noSlash, moves⟩ => ⟨nonempty, noSlash, moves⟩,
      fun h => ⟨h.nonempty, h.noSlash, h.moves⟩⟩

namespace Path

/-- A text that can stand between slashes. -/
def IsStep (name : String) : Prop :=
  name ≠ "" ∧ '/' ∉ name.toList

theorem isStep_of_mem_steps {path name : String} (h : name ∈ steps path) : IsStep name := by
  obtain ⟨piece, kept, rfl⟩ := List.mem_map.mp h
  obtain ⟨cut, nonempty⟩ := List.mem_filter.mp kept
  refine ⟨fun empty => ?_, fun slash => ?_⟩
  · rw [String.ofList_eq_empty_iff] at empty
    simp [empty] at nonempty
  · rw [String.toList_ofList] at slash
    exact (Text.of_mem_splitOn cut '/' slash).2 rfl

theorem steps_slash (before after : String) :
    steps (before ++ "/" ++ after) = steps before ++ steps after := by
  have whole : (before ++ "/" ++ after).toList = before.toList ++ '/' :: after.toList := by simp
  rw [steps, whole, List.splitOn_append_cons_self, List.filter_append, List.map_append]
  rfl

theorem steps_empty : steps "" = [] := rfl

theorem steps_of_isStep {name : String} (h : IsStep name) : steps name = [name] := by
  have nonempty : name.toList ≠ [] := by simpa using h.1
  rw [steps, List.splitOn_eq_singleton h.2]
  simp [nonempty]

theorem isAbsolute_of_isStep {name : String} (h : IsStep name) : isAbsolute name = false := by
  rw [isAbsolute, beq_eq_false_iff_ne]
  exact fun first => h.2 (List.mem_of_head? first)

theorem steps_join {name : String} (h : IsStep name) (base : String) :
    steps (join base name) = steps base ++ [name] := by
  rw [join, isAbsolute_of_isStep h, Bool.false_or]
  split
  · rename_i empty
    rw [eq_of_beq empty, steps_of_isStep h]
    rfl
  split
  · rename_i slash
    obtain ⟨before, shape⟩ := List.getLast?_eq_some_iff.mp (eq_of_beq slash)
    obtain rfl : base = String.ofList before ++ "/" := by
      rw [← String.toList_inj, shape]
      simp
    have same : steps (String.ofList before ++ "/") = steps (String.ofList before) := by
      simpa [steps_empty] using steps_slash (String.ofList before) ""
    rw [steps_slash, steps_of_isStep h, same]
  · rw [steps_slash, steps_of_isStep h]

/-- Names lead from one directory to different paths. -/
theorem join_inj {name other : String} (h : IsStep name) (h' : IsStep other) (base : String) :
    join base name = join base other ↔ name = other := by
  refine ⟨fun same => ?_, fun same => by rw [same]⟩
  rw [join, join, isAbsolute_of_isStep h, isAbsolute_of_isStep h', Bool.false_or] at same
  rw [← String.toList_inj] at same ⊢
  split_ifs at same
  · exact same
  · simpa using same
  · simpa using same

theorem isAbsolute_append {before : String} (nonempty : before ≠ "") (after : String) :
    isAbsolute (before ++ after) = isAbsolute before := by
  have chars : before.toList ≠ [] := by simpa using nonempty
  rw [isAbsolute, isAbsolute, String.toList_append, List.head?_append_of_ne_nil _ chars]

theorem isAbsolute_join {name : String} (h : IsStep name) (base : String) :
    isAbsolute (join base name) = isAbsolute base := by
  rw [join, isAbsolute_of_isStep h, Bool.false_or]
  split
  · rename_i empty
    rw [eq_of_beq empty, isAbsolute_of_isStep h]
    rfl
  · rename_i nonempty
    have given : base ≠ "" := fun empty => nonempty (beq_iff_eq.mpr empty)
    split
    · exact isAbsolute_append given name
    · rw [String.append_assoc, isAbsolute_append given]

theorem endsInSlash_join {name : String} (h : IsStep name) (base : String) :
    endsInSlash (join base name) = false := by
  have chars : name.toList ≠ [] := by simpa using h.1
  have last : ∀ before : String, endsInSlash (before ++ name) = false := by
    intro before
    rw [endsInSlash, String.toList_append, List.getLast?_append_of_ne_nil _ chars,
      beq_eq_false_iff_ne]
    exact fun slash => h.2 (List.mem_of_getLast? slash)
  rw [join, isAbsolute_of_isStep h, Bool.false_or]
  split
  · simpa using last ""
  split
  · exact last base
  · exact last (base ++ "/")

theorem steps_ofSteps {names : List String} (h : ∀ name ∈ names, IsStep name) (absolute : Bool) :
    steps (ofSteps absolute names) = names := by
  have joined : steps ("/".intercalate names) = names := by
    induction names with
    | nil => rfl
    | cons name names ih =>
      rw [List.forall_mem_cons] at h
      cases names with
      | nil => rw [String.intercalate_singleton, steps_of_isStep h.1]
      | cons next names =>
        rw [String.intercalate_cons_of_ne_nil (List.cons_ne_nil next names), steps_slash,
          steps_of_isStep h.1, ih h.2]
        rfl
  cases absolute with
  | false => simpa [ofSteps] using joined
  | true =>
    have leading := steps_slash "" ("/".intercalate names)
    rwa [String.empty_append, steps_empty, List.nil_append, joined] at leading

theorem isAbsolute_ofSteps {names : List String} (h : ∀ name ∈ names, IsStep name)
    (absolute : Bool) : isAbsolute (ofSteps absolute names) = absolute := by
  cases absolute with
  | true => simp [ofSteps, isAbsolute]
  | false =>
    cases names with
    | nil => rfl
    | cons name names =>
      rw [List.forall_mem_cons] at h
      have start : ∃ after, ofSteps false (name :: names) = name ++ after := by
        cases names with
        | nil => exact ⟨"", by simp [ofSteps, String.intercalate_singleton]⟩
        | cons next names =>
          refine ⟨"/" ++ "/".intercalate (next :: names), ?_⟩
          simp [ofSteps, String.intercalate_cons_of_ne_nil, String.append_assoc]
      obtain ⟨after, shape⟩ := start
      rw [shape, isAbsolute_append h.1.1, isAbsolute_of_isStep h.1]

end Path

theorem IsName.isStep {name : String} (h : IsName name) : Path.IsStep name :=
  ⟨h.nonempty, h.noSlash⟩

end TableMigration.File
