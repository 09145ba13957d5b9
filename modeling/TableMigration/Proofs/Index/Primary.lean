import TableMigration.Proofs.Index.Gather

/-!
# Implicit primary keys

When the method of a column declares the primary key. `primaryIsImplicit_iff` says it in terms of
the rows: they place the key at one position only, and the last of them names a counting column.
-/

namespace TableMigration.Index

theorem find?_gather (name : String) (rows : List Dump.IndexRow) :
    (gather rows).find? (·.name == name) =
      if name ∈ rows.map (·.name) then some (ofGroup (groupOf name (rowsOf name rows)))
      else none := by
  split
  · rename_i named
    refine (Keyed.find?_eq_some_iff Index.name (nodup_name_gather rows)).mpr ⟨?_, rfl⟩
    rw [gather_eq]
    exact List.mem_map_of_mem (List.mem_eraseDups.mpr named)
  · rename_i unnamed
    refine List.find?_eq_none.mpr fun index member same => unnamed ?_
    rw [← eq_of_beq same, ← List.mem_eraseDups, ← map_name_gather]
    exact List.mem_map_of_mem member

/-! ### A single position -/

theorem last?_position_of_single {rows : List Dump.IndexRow} {row : Dump.IndexRow}
    (last : rows.getLast? = some row) (single : ∀ other ∈ rows, other.position = row.position) :
    Keyed.last? (·.position) row.position rows = some row := by
  have all : rows.filter (·.position = row.position) = rows :=
    List.filter_eq_self.mpr fun other member => by simpa using single other member
  rw [Keyed.last?, all, last]

theorem placed_of_single {rows : List Dump.IndexRow} {row : Dump.IndexRow}
    (last : rows.getLast? = some row) (single : ∀ other ∈ rows, other.position = row.position) :
    placed rows = [(row.position, row.column)] := by
  have kept := last?_position_of_single last single
  refine (places_placed rows).unique ⟨List.pairwise_singleton _ _, fun position column => ?_⟩
  rw [List.mem_singleton, Prod.mk.injEq]
  constructor
  · rintro ⟨rfl, rfl⟩
    exact ⟨row, kept, rfl⟩
  · rintro ⟨other, found, rfl⟩
    obtain ⟨inside, here⟩ := Keyed.last?_eq_some _ found
    have position := here.symm.trans (single other inside)
    rw [position, kept] at found
    exact ⟨position, congrArg _ (Option.some.inj found).symm⟩

theorem single_of_placed {rows : List Dump.IndexRow} {row : Dump.IndexRow} {entry : Nat × String}
    (last : rows.getLast? = some row) (h : placed rows = [entry]) :
    (∀ other ∈ rows, other.position = row.position) ∧ entry = (row.position, row.column) := by
  have position : ∀ other ∈ rows, other.position = entry.1 := by
    intro other member
    obtain ⟨kept, found⟩ := Keyed.exists_last? (fun row : Dump.IndexRow => row.position)
      (List.mem_map_of_mem (f := fun row : Dump.IndexRow => row.position) member)
    have there : (other.position, kept.column) ∈ placed rows := mem_placed.mpr (by rw [found]; rfl)
    rw [h, List.mem_singleton] at there
    rw [← there]
  have single : ∀ other ∈ rows, other.position = row.position := fun other member =>
    (position other member).trans (position row (List.mem_of_getLast? last)).symm
  rw [placed_of_single last single] at h
  exact ⟨single, (List.cons.inj h).1.symm⟩

/-! ### The primary key -/

/-- The rows place the primary key at one position, and the last of them names a counting column. -/
def ImplicitPrimary (rows : List Dump.IndexRow) (columns : List Column) : Prop :=
  ∃ row ∈ Keyed.last? (·.name) primaryName rows,
    (∀ other ∈ rows, other.name = primaryName → other.position = row.position) ∧
      ∃ column ∈ columns, column.field = row.column ∧
        Text.contains (Text.lower column.method) "increments" = true

instance (rows : List Dump.IndexRow) (columns : List Column) :
    Decidable (ImplicitPrimary rows columns) :=
  inferInstanceAs <| Decidable <| ∃ row ∈ Keyed.last? (·.name) primaryName rows,
    (∀ other ∈ rows, other.name = primaryName → other.position = row.position) ∧
      ∃ column ∈ columns, column.field = row.column ∧
        Text.contains (Text.lower column.method) "increments" = true

theorem implicitPrimary_iff_of_last {rows : List Dump.IndexRow} {columns : List Column}
    {row : Dump.IndexRow} (last : Keyed.last? (·.name) primaryName rows = some row) :
    ImplicitPrimary rows columns ↔
      (∀ other ∈ rowsOf primaryName rows, other.position = row.position) ∧
        ∃ column ∈ columns, column.field = row.column ∧
          Text.contains (Text.lower column.method) "increments" = true := by
  have named : ∀ {other : Dump.IndexRow},
      other ∈ rowsOf primaryName rows ↔ other ∈ rows ∧ other.name = primaryName := by
    simp [rowsOf]
  constructor
  · rintro ⟨row', last', single, counting⟩
    obtain rfl : row = row' := Option.some.inj (last.symm.trans last')
    exact ⟨fun other kept => single other (named.mp kept).1 (named.mp kept).2, counting⟩
  · rintro ⟨single, counting⟩
    exact ⟨row, last, fun other kept name => single other (named.mpr ⟨kept, name⟩), counting⟩

/-- The primary key is implicit exactly when its rows say so, whatever rows stand between them. -/
theorem primaryIsImplicit_iff {rows : List Dump.IndexRow} {columns : List Column}
    (distinct : (columns.map (·.field)).Nodup) :
    primaryIsImplicit (gather rows) columns = true ↔ ImplicitPrimary rows columns := by
  rw [primaryIsImplicit, find?_gather]
  by_cases member : primaryName ∈ rows.map (·.name)
  · obtain ⟨row, last⟩ := Keyed.exists_last? (fun row : Dump.IndexRow => row.name) member
    have lastRow : (rowsOf primaryName rows).getLast? = some row := last
    rw [if_pos member, implicitPrimary_iff_of_last last]
    -- The index has a single column exactly if its rows share a position.
    by_cases single : ∀ other ∈ rowsOf primaryName rows, other.position = row.position
    · simp only [ofGroup, groupOf, placed_of_single lastRow single, List.map_cons, List.map_nil]
      rw [and_iff_right single]
      rw [← Keyed.exists_mem_find?_iff Column.field distinct]
      cases columns.find? (·.field == row.column) <;> simp
    · refine iff_of_false ?_ (fun h => single h.1)
      cases entries : placed (rowsOf primaryName rows) with
      | nil => simp [ofGroup, groupOf, entries]
      | cons first rest =>
        cases rest with
        | nil => exact absurd (single_of_placed lastRow entries).1 single
        | cons second rest => simp [ofGroup, groupOf, entries]
  · rw [if_neg member]
    refine iff_of_false (by simp) ?_
    rintro ⟨row, last, -⟩
    obtain ⟨inside, named⟩ := Keyed.last?_eq_some _ last
    exact member (List.mem_map.mpr ⟨row, inside, named⟩)

/-- Each name has one index, in order of first mention, except an implicit primary key. -/
theorem map_name_listOfRows (rows : List Dump.IndexRow) {columns : List Column}
    (distinct : (columns.map (·.field)).Nodup) :
    (listOfRows rows columns).map (·.name) =
      (rows.map (·.name)).eraseDups.filter fun name =>
        ¬(name = primaryName ∧ ImplicitPrimary rows columns) := by
  rw [listOfRows, ← map_name_gather]
  by_cases implicit : ImplicitPrimary rows columns
  · rw [if_pos ((primaryIsImplicit_iff distinct).mpr implicit), List.filter_map]
    refine congrArg _ (List.filter_congr fun index _ => ?_)
    simp [implicit, bne, beq_eq_decide]
  · rw [if_neg (mt (primaryIsImplicit_iff distinct).mp implicit)]
    simp [implicit]

end TableMigration.Index
