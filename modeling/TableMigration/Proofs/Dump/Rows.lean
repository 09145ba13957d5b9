import Mathlib.Data.List.Forall2
import TableMigration.Dump.Reader
import TableMigration.Proofs.Text.OneLine

/-!
# Rows of a dump that was read

A dump that can be read has a row for each of its lines (`readRows_eq_ok_iff`). The fields of a row
are pieces of its line, so there is no line feed in them.
-/

namespace TableMigration.Dump

/-! ### Cutting texts -/

theorem of_mem_cutAtFirst {separator : Char} {n : Nat} {s piece : List Char}
    (h : piece ∈ cutAtFirst separator n s) : ∀ c ∈ piece, c ∈ s := by
  induction n generalizing s with
  | zero =>
    rw [cutAtFirst, List.mem_singleton] at h
    simp [h]
  | succ n ih =>
    rw [cutAtFirst] at h
    split at h
    · rw [List.mem_singleton] at h
      simp [h]
    · rename_i c rest shape
      rcases List.mem_cons.mp h with rfl | later
      · exact fun d member => (List.takeWhile_sublist _).subset member
      · intro d member
        have kept : d ∈ s.dropWhile (· != separator) :=
          shape ▸ List.mem_cons_of_mem _ (ih later d member)
        exact (List.dropWhile_sublist _).subset kept

theorem newline_not_mem_dataLines {text : List Char} {line : List Char × Nat}
    (h : line ∈ dataLines text) : '\n' ∉ line.1 := by
  have numbered := List.mem_of_mem_drop (List.mem_filter.mp h).1
  obtain ⟨piece, cut, same⟩ := List.mem_map.mp (List.fst_mem_of_mem_zipIdx numbered)
  intro member
  rw [← same, Text.dropEndWhile_eq_rdropWhile] at member
  exact (Text.of_mem_splitOn cut '\n' ((List.rdropWhile_prefix _ _).subset member)).2 rfl

/-! ### Rows of lines -/

theorem mapM_eq_ok_iff {α β ε : Type} {f : α → Except ε β} {l : List α} {results : List β} :
    l.mapM f = .ok results ↔ List.Forall₂ (fun a b => f a = .ok b) l results := by
  induction l generalizing results with
  | nil =>
    rw [List.mapM_nil, List.forall₂_nil_left_iff]
    exact ⟨fun h => (Except.ok.inj h).symm, fun h => h ▸ rfl⟩
  | cons a rest ih =>
    rw [List.mapM_cons, List.forall₂_cons_left_iff]
    constructor
    · intro h
      cases first : f a with
      | error fault => rw [first] at h; cases h
      | ok b =>
        rw [first] at h
        cases others : rest.mapM f with
        | error fault => rw [others] at h; cases h
        | ok later =>
          rw [others] at h
          exact ⟨b, later, rfl, ih.mp others, (Except.ok.inj h).symm⟩
    · rintro ⟨b, later, first, others, rfl⟩
      rw [first, ih.mpr others]
      rfl

theorem mapError_eq_ok_iff {α ε ε' : Type} {f : ε → ε'} {result : Except ε α} {a : α} :
    result.mapError f = .ok a ↔ result = .ok a := by
  cases result <;> simp [Except.mapError]

/-- A dump reads as rows exactly if each of its lines reads as the row at its place. -/
theorem readRows_eq_ok_iff {α : Type} {kind : Kind} {read : List Char → Except RowFault α}
    {text : String} {rows : List α} :
    readRows kind read text = .ok rows ↔
      List.Forall₂ (fun line row => read line.1 = .ok row) (dataLines text.toList) rows := by
  rw [readRows, mapM_eq_ok_iff]
  simp only [mapError_eq_ok_iff]

theorem exists_line_of_readRows {α : Type} {kind : Kind} {read : List Char → Except RowFault α}
    {text : String} {rows : List α} (h : readRows kind read text = .ok rows) {row : α}
    (member : row ∈ rows) : ∃ line, '\n' ∉ line ∧ read line = .ok row := by
  have pairs := readRows_eq_ok_iff.mp h
  obtain ⟨i, bound, rfl⟩ := List.getElem_of_mem member
  have here : i < (dataLines text.toList).length := pairs.length_eq.symm ▸ bound
  exact ⟨(dataLines text.toList)[i].1, newline_not_mem_dataLines (List.getElem_mem here),
    pairs.get here bound⟩

/-! ### Fields of rows -/

theorem oneLine_of_mem_splitOn {line : List Char} (h : '\n' ∉ line) {field : String}
    (member : field ∈ (line.splitOn '\t').map String.ofList) : Text.OneLine field := by
  obtain ⟨piece, cut, rfl⟩ := List.mem_map.mp member
  exact Text.oneLine_ofList.mpr fun inside => h (Text.of_mem_splitOn cut '\n' inside).1

def ColumnRow.fields (row : ColumnRow) : List String :=
  [row.field, row.type, row.null, row.key, row.default, row.extra, row.comment]

/-- The texts among the fields of a row of indexes, in order. -/
def IndexRow.texts (row : IndexRow) : List String :=
  [row.table, row.nonUnique, row.name, row.column, row.extra]

def ForeignKeyRow.fields (row : ForeignKeyRow) : List String :=
  [row.name, row.column, row.referencedTable, row.referencedColumn, row.updateRule, row.deleteRule]

theorem ColumnRow.fields_of_read {line : List Char} {row : ColumnRow} (h : read line = .ok row) :
    row.fields = (line.splitOn '\t').map String.ofList := by
  rw [read] at h
  split at h
  · rename_i cut
    rw [← Except.ok.inj h, cut]
    rfl
  · cases h

theorem ForeignKeyRow.fields_of_read {line : List Char} {row : ForeignKeyRow}
    (h : read line = .ok row) : row.fields = (line.splitOn '\t').map String.ofList := by
  rw [read] at h
  split at h
  · rename_i cut
    rw [← Except.ok.inj h, cut]
    rfl
  · cases h

theorem IndexRow.texts_of_read {line : List Char} {row : IndexRow} (h : read line = .ok row) :
    ∀ text ∈ row.texts, text ∈ (cutAtFirst '\t' 5 line).map String.ofList := by
  rw [read] at h
  split at h
  · rename_i cut
    split at h
    · rw [← Except.ok.inj h, cut]
      simp [texts]
    · cases h
  · cases h

theorem oneLine_of_readColumnRows {text : String} {rows : List ColumnRow}
    (h : readColumnRows text = .ok rows) :
    ∀ row ∈ rows, ∀ field ∈ row.fields, Text.OneLine field := by
  intro row member field kept
  obtain ⟨line, oneLine, read⟩ := exists_line_of_readRows h member
  exact oneLine_of_mem_splitOn oneLine (ColumnRow.fields_of_read read ▸ kept)

theorem oneLine_of_readIndexRows {text : String} {rows : List IndexRow}
    (h : readIndexRows text = .ok rows) :
    ∀ row ∈ rows, ∀ field ∈ row.texts, Text.OneLine field := by
  intro row member field kept
  obtain ⟨line, oneLine, read⟩ := exists_line_of_readRows h member
  obtain ⟨piece, cut, rfl⟩ := List.mem_map.mp (IndexRow.texts_of_read read field kept)
  exact Text.oneLine_ofList.mpr fun inside => oneLine (of_mem_cutAtFirst cut '\n' inside)

theorem oneLine_of_readForeignKeyRows {text : String} {rows : List ForeignKeyRow}
    (h : readForeignKeyRows text = .ok rows) :
    ∀ row ∈ rows, ∀ field ∈ row.fields, Text.OneLine field := by
  intro row member field kept
  obtain ⟨line, oneLine, read⟩ := exists_line_of_readRows h member
  exact oneLine_of_mem_splitOn oneLine (ForeignKeyRow.fields_of_read read ▸ kept)

end TableMigration.Dump
