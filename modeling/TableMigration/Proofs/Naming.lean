import TableMigration.Naming
import TableMigration.Proofs.File.Paths
import TableMigration.Proofs.Text.Casing
import TableMigration.Proofs.Text.Decimal
import TableMigration.Proofs.Text.OneLine

/-!
# Names of migrations

The file of a migration has a proper name, and two tables share one just if their names are the same
in lower case (`fileName_eq_iff`). The class of a table is named on one line (`oneLine_className`).
-/

namespace TableMigration

namespace Moment

theorem isDigit_of_mem_padded {width n : Nat} {c : Char} (h : c ∈ (padded width n).toList) :
    c.isDigit = true := by
  rw [padded, String.toList_ofList, List.mem_append] at h
  rcases h with zero | digit
  · rw [List.eq_of_mem_replicate zero]
    decide
  · exact Nat.isDigit_of_mem_toDigits (by decide) (by decide) digit

theorem slash_not_mem_padded (width n : Nat) : '/' ∉ (padded width n).toList := fun member =>
  absurd (isDigit_of_mem_padded member) (by decide)

theorem stamp_eq (m : Moment) : m.stamp =
    yearText m.year ++ "_" ++ padded 2 m.month ++ "_" ++ padded 2 m.day ++ "_" ++
      padded 2 m.hour ++ padded 2 m.minute ++ padded 2 m.second := by
  rw [← String.toList_inj, stamp, String.toList_ofList, stampFormat]
  simp [formatted, Field.ofLetter?, field]

theorem slash_not_mem_stamp (m : Moment) : '/' ∉ m.stamp.toList := by
  have year : '/' ∉ (yearText m.year).toList := by
    rw [yearText]
    split_ifs <;> simp [slash_not_mem_padded]
  simp [stamp_eq, year, slash_not_mem_padded]

end Moment

namespace Naming

/-- What stands before the name of the table. -/
def front : Option Moment → String
  | some m => m.stamp ++ "_" ++ "create_"
  | none => "create_"

theorem fileName_eq (table : String) (moment : Option Moment) :
    fileName table moment = front moment ++ Text.lower table ++ "_table.php" := by
  cases moment with
  | none => rfl
  | some m => simp only [fileName, front, String.append_assoc]

/-- Two tables share a file just if their names differ in case alone. -/
theorem fileName_eq_iff {table other : String} {moment : Option Moment} :
    fileName table moment = fileName other moment ↔ Text.lower table = Text.lower other := by
  rw [fileName_eq, fileName_eq, ← String.toList_inj, ← String.toList_inj]
  simp

theorem isName_fileName {table : String} (h : '/' ∉ table.toList) (moment : Option Moment) :
    File.IsName (fileName table moment) := by
  have last : (fileName table moment).toList.getLast? = some 'p' := by
    rw [fileName_eq, String.toList_append]
    simp
  have lowered : '/' ∉ (Text.lower table).toList := Text.not_mem_lower (by decide) h
  refine ⟨?_, ?_, ?_, ?_⟩
  · intro empty
    rw [empty] at last
    cases last
  · rw [fileName_eq]
    cases moment with
    | none => simp [front, lowered]
    | some m => simp [front, lowered, Moment.slash_not_mem_stamp]
  · intro same
    rw [same] at last
    simp at last
  · intro same
    rw [same] at last
    simp at last

/-! ### Classes -/

theorem oneLine_className {table : String} (h : Text.OneLine table) :
    Text.OneLine (className table) := by
  have spaced : '\n' ∉ table.toList.map fun c => if isJoint c then ' ' else c := by
    intro member
    obtain ⟨c, inside, same⟩ := List.mem_map.mp member
    split at same
    · exact absurd same (by decide)
    · exact h (same ▸ inside)
  have words : Text.OneLine (studly table) := by
    rw [studly, Text.oneLine_ofList, List.mem_flatMap]
    rintro ⟨word, kept, member⟩
    refine Text.not_mem_capitalize (by decide) (fun inside => spaced ?_) member
    exact (Text.of_mem_splitOnP (List.mem_filter.mp kept).1 '\n' inside).1
  exact (Text.OneLine.append (by decide) words).append (by decide)

end Naming

end TableMigration
