import TableMigration.Proofs.Column.Counting
import TableMigration.Proofs.Column.Quoting
import TableMigration.Proofs.Dump.Rows
import TableMigration.Proofs.Statement.OneLine

/-!
# Columns on one line

The columns of a dump have no line feed in the texts that their statements show
(`Column.oneLine_listOfRows`), whichever methods they resolve to.
-/

namespace TableMigration

open Text (oneLine_ofList)

/-! ### Types -/

theorem ColumnArgs.oneLine_ofBody {body : List Char} (h : '\n' ∉ body) :
    ∀ value ∈ (ofBody body).values, Text.OneLine value := by
  rw [ofBody]
  split
  · simp [values]
  · split
    · simpa [values, oneLine_ofList] using h
    · intro value member
      obtain ⟨piece, cut, rfl⟩ := List.mem_map.mp member
      exact oneLine_ofList.mpr fun inside =>
        h (of_mem_splitCommas cut _ (Text.mem_of_mem_trim inside))

theorem TypeParts.oneLine_ofText? {text : String} (h : Text.OneLine text) {parts : TypeParts}
    (found : ofText? text = some parts) :
    Text.OneLine parts.base ∧ ∀ value ∈ parts.args.values, Text.OneLine value := by
  have base : parts.base = String.ofList ((Text.trim text.toList).takeWhile Text.isWordChar) := by
    rw [ofText?] at found
    split at found
    · cases found
    · split at found
      · obtain ⟨_, -, rfl⟩ := Option.map_eq_some_iff.mp found
        rfl
      · rw [← Option.some.inj found]
  obtain ⟨body, args, line, -⟩ := exists_body found
  rw [base, args]
  refine ⟨oneLine_ofList.mpr fun member => h ?_, ColumnArgs.oneLine_ofBody line⟩
  exact Text.mem_of_mem_trim ((List.takeWhile_sublist _).subset member)

namespace ResolvedType

theorem oneLine_integerMethod {base : BaseType} {methods : BaseType.IntegerMethods}
    (found : base.integerMethods? = some methods) (modifiers : Option String) (extra : String) :
    Text.OneLine (integerMethod methods modifiers extra) := by
  have table : ∀ entry ∈ BaseType.integerTable,
      ∀ method ∈ [entry.2.counting, entry.2.unsigned, entry.2.plain], Text.OneLine method := by
    decide
  exact table (base, methods) (BaseType.integerMethods?_eq_some_iff.mp found) _
    (integerMethod_mem methods modifiers extra)

theorem oneLine_fixedMethod {base : BaseType} {method : String}
    (found : base.fixedMethod? = some method) : Text.OneLine method := by
  cases base <;> cases found <;> decide

/-- The method and the arguments have no line feed. -/
structure OneLine (resolved : ResolvedType) : Prop where
  method : Text.OneLine resolved.method
  args : ∀ value ∈ resolved.args.values, Text.OneLine value

theorem oneLine_ofUnknown {name : String} (h : Text.OneLine name) : (ofUnknown name).OneLine where
  method := .append (by decide) h
  args := by simp [ofUnknown, ColumnArgs.values]

theorem oneLine_ofParts {parts : TypeParts} (base : Text.OneLine parts.base)
    (args : ∀ value ∈ parts.args.values, Text.OneLine value) (extra : String) :
    (ofParts parts extra).OneLine := by
  have empty : ∀ value ∈ ColumnArgs.none.values, Text.OneLine value := by simp [ColumnArgs.values]
  rw [ofParts.eq_def]
  dsimp only
  split
  · exact ⟨show Text.OneLine "boolean" by decide, empty⟩
  · split
    · rename_i methods found
      exact ⟨oneLine_integerMethod found _ extra, empty⟩
    · split
      · rename_i method found
        refine ⟨oneLine_fixedMethod found, ?_⟩
        dsimp only
        split
        · exact empty
        · exact args
      · exact oneLine_ofUnknown base.lower

theorem oneLine_ofText {text : String} (h : Text.OneLine text) (extra : String) :
    (ofText text extra).OneLine := by
  rw [ofText]
  split
  · rename_i parts found
    obtain ⟨base, args⟩ := TypeParts.oneLine_ofText? h found
    exact oneLine_ofParts base args extra
  · exact oneLine_ofUnknown h.trim.lower

end ResolvedType

/-! ### Columns -/

namespace Column

theorem oneLine_ofRow {row : Dump.ColumnRow} (h : ∀ field ∈ row.fields, Text.OneLine field) :
    (ofRow row).OneLine := by
  simp only [Dump.ColumnRow.fields, List.forall_mem_cons] at h
  obtain ⟨field, type, -, -, default, -, comment, -⟩ := h
  obtain ⟨method, args⟩ := ResolvedType.oneLine_ofText type row.extra
  refine ⟨field, method, args, ?_, ?_⟩
  · intro value found
    show Text.OneLine value
    rw [ofRow] at found
    split at found
    · cases found
    · rwa [← Option.some.inj found]
  · refine oneLine_ofList.mpr fun member => ?_
    have kept := (List.mem_filter.mp (Text.mem_of_mem_trim member)).2
    exact absurd kept (by decide)

theorem OneLine.foldInto {column : Column} (h : column.OneLine) {method : String}
    (hm : Text.OneLine method) : (column.foldInto method).OneLine where
  name := show Text.OneLine "" by decide
  method := hm
  args := by simp [Column.foldInto, ColumnArgs.values]
  defaultValue := by simp [Column.foldInto]
  comment := h.comment

theorem oneLine_listOfRows {rows : List Dump.ColumnRow}
    (h : ∀ row ∈ rows, ∀ field ∈ row.fields, Text.OneLine field) :
    ∀ column ∈ listOfRows rows, column.OneLine := by
  have methods : ∀ method ∈ conventionMethods, Text.OneLine method := by decide
  refine forall_foldConventions (fun _ line method found => line.foldInto (methods method found)) ?_
  intro column member
  have kept := (Keyed.last?_eq_some field ((Keyed.mem_ofList field).mp member)).1
  obtain ⟨row, inside, rfl⟩ := List.mem_map.mp kept
  exact oneLine_ofRow (h row inside)

end Column

end TableMigration
