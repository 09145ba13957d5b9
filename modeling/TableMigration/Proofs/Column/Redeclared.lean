import TableMigration.Proofs.Column.Conventions

/-!
# Columns declared more than once

A field keeps the place of its first row and the type of its last. `listOfRows_redeclared` says that
the columns are the conventions of those last rows, and that a row has no influence on the columns
of other fields unless it is one of a pair of time stamps.
-/

namespace TableMigration.Column

/-- The columns before any convention: each field once, in order of first mention, as its last row
declares it. -/
def lastDeclared (rows : List Dump.ColumnRow) : List Column :=
  (rows.map (·.field)).eraseDups.filterMap fun field =>
    (Keyed.last? (·.field) field rows).map ofRow

theorem listOfRows_eq (rows : List Dump.ColumnRow) :
    listOfRows rows = foldConventions (lastDeclared rows) :=
  congrArg foldConventions (Keyed.ofList_map field ofRow rows)

theorem map_field_lastDeclared (rows : List Dump.ColumnRow) :
    (lastDeclared rows).map (·.field) = (rows.map (·.field)).eraseDups := by
  have columns : Keyed.ofList field (rows.map ofRow) = lastDeclared rows :=
    Keyed.ofList_map field ofRow rows
  rw [← columns, Keyed.map_key_ofList, List.map_map]
  rfl

theorem lastDeclared_congr {rows rows' : List Dump.ColumnRow}
    (order : (rows'.map (·.field)).eraseDups = (rows.map (·.field)).eraseDups)
    (last : ∀ field ∈ rows.map (·.field),
      Keyed.last? (·.field) field rows' = Keyed.last? (·.field) field rows) :
    lastDeclared rows' = lastDeclared rows := by
  rw [lastDeclared, order]
  refine List.filterMap_congr fun field member => ?_
  rw [last field (List.mem_eraseDups.mp member)]

/-! ### Columns of some fields -/

section

variable {p : String → Bool}

theorem hasMethod_filter_field (columns : List Column) {field : String} (kept : p field = true)
    (method : String) :
    hasMethod (columns.filter fun column => p column.field) field method =
      hasMethod columns field method := by
  rw [hasMethod_filter, hasMethod_filter, List.filter_filter]
  have same : ∀ column ∈ columns,
      (decide (column.field = field) && p column.field) = decide (column.field = field) := by
    intro column _
    by_cases here : column.field = field <;> simp [here, kept]
  rw [List.filter_congr same]

variable (created : p "created_at" = true) (updated : p "updated_at" = true)
include created updated

theorem filter_foldTimestamps (columns : List Column) :
    (foldTimestamps columns).filter (fun column => p column.field) =
      foldTimestamps (columns.filter fun column => p column.field) := by
  rw [foldTimestamps, foldTimestamps, hasMethod_filter_field _ created,
    hasMethod_filter_field _ updated]
  split
  · rw [Keyed.filter_updateFirst p fun column => foldInto_field _ column, List.filter_filter,
      List.filter_filter]
    simp only [Bool.and_comm]
  · rfl

theorem filter_foldConventions (columns : List Column) :
    (foldConventions columns).filter (fun column => p column.field) =
      foldConventions (columns.filter fun column => p column.field) := by
  have softDeletes : (foldSoftDeletes columns).filter (fun column => p column.field) =
      foldSoftDeletes (columns.filter fun column => p column.field) :=
    Keyed.filter_updateFirst p (fun _ => field_foldInto_if) columns
  rw [foldConventions, foldConventions, ← softDeletes, ← filter_foldTimestamps created updated]
  exact Keyed.filter_updateFirst p (fun _ => field_foldInto_if) _

/-- The columns of some fields come from the rows of these fields alone, if the pair of time stamps
is among them. -/
theorem filter_listOfRows (rows : List Dump.ColumnRow) :
    (listOfRows rows).filter (fun column => p column.field) =
      listOfRows (rows.filter fun row => p row.field) := by
  rw [listOfRows, filter_foldConventions created updated, Keyed.filter_ofList field p,
    List.filter_map]
  rfl

end

/-! ### A row in the place of another -/

theorem pairsTimestamps_of_other {before after : List Dump.ColumnRow} {row : Dump.ColumnRow}
    (other : row.field ∉ ["created_at", "updated_at"]) :
    PairsTimestamps (before ++ row :: after) ↔ PairsTimestamps (before ++ after) := by
  obtain ⟨created, updated⟩ : row.field ≠ "created_at" ∧ row.field ≠ "updated_at" := by
    simpa using other
  simp [PairsTimestamps, lastMethod?, Keyed.last?, created, updated]

section

variable {before after : List Dump.ColumnRow} {row row' : Dump.ColumnRow}
  (other : row.field ∉ ["created_at", "updated_at"])
  (other' : row'.field ∉ ["created_at", "updated_at"])
include other other'

theorem filter_listOfRows_replaced :
    (listOfRows (before ++ row' :: after)).filter (·.field ∉ [row.field, row'.field]) =
      (listOfRows (before ++ row :: after)).filter (·.field ∉ [row.field, row'.field]) := by
  let kept : String → Bool := fun field => field ∉ [row.field, row'.field]
  have keeps : ∀ field ∈ ["created_at", "updated_at"], kept field = true := by
    intro field paired
    have apart : field ≠ row.field ∧ field ≠ row'.field :=
      ⟨fun same => other (same ▸ paired), fun same => other' (same ▸ paired)⟩
    simpa [kept] using apart
  -- Neither row is among those that the kept columns come from.
  have rest : ∀ changed : Dump.ColumnRow, changed.field ∈ [row.field, row'.field] →
      (listOfRows (before ++ changed :: after)).filter (fun column => kept column.field) =
        listOfRows ((before ++ after).filter fun row => kept row.field) := by
    intro changed member
    have dropped : ¬kept changed.field = true := fun inside => of_decide_eq_true inside member
    rw [filter_listOfRows (keeps _ (by simp)) (keeps _ (by simp)), List.filter_append,
      List.filter_append, List.filter_cons, if_neg dropped]
  exact (rest row' (by simp)).trans (rest row (by simp)).symm

theorem map_field_listOfRows_replaced (same : row'.field = row.field) :
    (listOfRows (before ++ row' :: after)).map (·.field) =
      (listOfRows (before ++ row :: after)).map (·.field) := by
  have fields : (before ++ row' :: after).map (·.field) =
      (before ++ row :: after).map (·.field) := by
    simp [same]
  rw [map_field_listOfRows, map_field_listOfRows, fields]
  simp only [pairsTimestamps_of_other other, pairsTimestamps_of_other other']

end

/-- The columns are the conventions of what the last row of each field declares, in order of first
mention, so rows that agree on both give the same columns. A row that another takes the place of
leaves every column of another field as it is, unless one of the two is of a pair of time stamps;
and if both are of one field, all columns keep their places. -/
theorem listOfRows_redeclared (rows : List Dump.ColumnRow) :
    listOfRows rows = foldConventions (lastDeclared rows) ∧
      (lastDeclared rows).map (·.field) = (rows.map (·.field)).eraseDups ∧
      (∀ rows' : List Dump.ColumnRow,
        (rows'.map (·.field)).eraseDups = (rows.map (·.field)).eraseDups →
        (∀ field ∈ rows.map (·.field),
          Keyed.last? (·.field) field rows' = Keyed.last? (·.field) field rows) →
        listOfRows rows' = listOfRows rows) ∧
      ∀ before row row' after, rows = before ++ row :: after →
        row.field ∉ ["created_at", "updated_at"] → row'.field ∉ ["created_at", "updated_at"] →
        (listOfRows (before ++ row' :: after)).filter (·.field ∉ [row.field, row'.field]) =
            (listOfRows rows).filter (·.field ∉ [row.field, row'.field]) ∧
          (row'.field = row.field →
            (listOfRows (before ++ row' :: after)).map (·.field) =
              (listOfRows rows).map (·.field)) := by
  -- Whatever two histories agree on decides the columns; a replaced row is in neither.
  refine ⟨listOfRows_eq rows, map_field_lastDeclared rows, fun rows' order last => ?_, ?_⟩
  · rw [listOfRows_eq, listOfRows_eq, lastDeclared_congr order last]
  · rintro before row row' after rfl other other'
    exact ⟨filter_listOfRows_replaced other other', map_field_listOfRows_replaced other other'⟩

theorem listOfRows_redeclared_posts :
    let row := fun field type => Dump.ColumnRow.mk field type "NO" "" "NULL" "" ""
    let rows := [row "title" "int(11)", row "created_at" "timestamp", row "body" "text",
      row "title" "varchar(120)", row "updated_at" "timestamp"]
    listOfRows [row "title" "varchar(120)", row "created_at" "timestamp", row "body" "text",
        row "updated_at" "timestamp"] = listOfRows rows ∧
      (listOfRows [row "title" "int(11)", row "created_at" "timestamp", row "body" "json",
        row "title" "varchar(120)", row "updated_at" "timestamp"]).filter (·.field ∉ ["body"]) = [
          ⟨"title", "title", "varchar(120)", "string", .scalar "120", none, false, none, ""⟩,
          ⟨"created_at", "", "timestamp", "timestamps", .none, none, false, none, ""⟩] := by
  intro row rows
  obtain ⟨-, -, agreeing, replacing⟩ := listOfRows_redeclared rows
  have replaced := (replacing [row "title" "int(11)", row "created_at" "timestamp"]
    (row "body" "text") (row "body" "json")
    [row "title" "varchar(120)", row "updated_at" "timestamp"] rfl (by decide) (by decide)).1
  refine ⟨agreeing _ (by decide) (by decide), ?_⟩
  have once : ∀ field : String, field ∉ [(row "body" "text").field, (row "body" "json").field] ↔
      field ∉ ["body"] := by
    simp [row]
  simp only [once] at replaced
  exact replaced.trans (by decide +kernel)

end TableMigration.Column
