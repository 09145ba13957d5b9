import Mathlib.Data.List.Sort
import TableMigration.Index
import TableMigration.Proofs.Keyed

/-!
# Gathering indexes

Rows of several indexes may come in any order. `gather_eq` says that each index is put together
from its own rows, and `mem_placed` that a position keeps the column of its last row.
-/

namespace TableMigration.Index

/-! ### Columns by position -/

/-- The columns that rows place. -/
def placed (rows : List Dump.IndexRow) : List (Nat × String) :=
  rows.foldl (fun columns row => placeColumn row.position row.column columns) []

theorem placed_concat (rows : List Dump.IndexRow) (row : Dump.IndexRow) :
    placed (rows ++ [row]) = placeColumn row.position row.column (placed rows) := by
  rw [placed, placed, List.foldl_append]
  rfl

theorem mem_placeColumn {position : Nat} {column : String} {columns : List (Nat × String)}
    (ordered : columns.Pairwise (·.1 < ·.1)) {entry : Nat × String} :
    entry ∈ placeColumn position column columns ↔
      entry = (position, column) ∨ entry.1 ≠ position ∧ entry ∈ columns := by
  induction columns with
  | nil => simp [placeColumn]
  | cons first rest ih =>
    obtain ⟨above, ordered⟩ := List.pairwise_cons.mp ordered
    have away : ∀ later ∈ rest, first.1 ≤ later.1 ∧ later.1 ≠ first.1 := fun later member => by
      have := above later member
      omega
    rw [placeColumn]
    -- The new column goes before the first, over it, or somewhere behind it.
    by_cases below : position < first.1
    · rw [if_pos below, List.mem_cons]
      have apart : entry ∈ first :: rest → entry.1 ≠ position := by
        intro member
        rcases List.mem_cons.mp member with rfl | member
        · omega
        · have := away entry member
          omega
      tauto
    by_cases here : position = first.1
    · rw [if_neg below, if_pos here, List.mem_cons, List.mem_cons]
      have apart : entry ∈ rest → entry.1 ≠ position := by
        intro member
        have := away entry member
        omega
      have replaced : entry = first → entry.1 = position := by
        rintro rfl
        exact here.symm
      tauto
    · rw [if_neg below, if_neg here, List.mem_cons, ih ordered, List.mem_cons]
      have kept : entry = first → entry.1 ≠ position := by
        rintro rfl
        exact Ne.symm here
      tauto

theorem placeColumn_ordered {position : Nat} {column : String} {columns : List (Nat × String)}
    (ordered : columns.Pairwise (·.1 < ·.1)) :
    (placeColumn position column columns).Pairwise (·.1 < ·.1) := by
  induction columns with
  | nil => simp [placeColumn]
  | cons first rest ih =>
    have whole := ordered
    obtain ⟨above, ordered⟩ := List.pairwise_cons.mp ordered
    rw [placeColumn]
    by_cases below : position < first.1
    · rw [if_pos below]
      refine List.pairwise_cons.mpr ⟨fun later member => ?_, whole⟩
      rcases List.mem_cons.mp member with rfl | member
      · exact below
      · exact Nat.lt_trans below (above later member)
    by_cases here : position = first.1
    · rw [if_neg below, if_pos here]
      exact List.pairwise_cons.mpr ⟨fun later member => here ▸ above later member, ordered⟩
    · rw [if_neg below, if_neg here]
      refine List.pairwise_cons.mpr ⟨fun later member => ?_, ih ordered⟩
      rcases (mem_placeColumn ordered).mp member with rfl | ⟨-, member⟩
      · show first.1 < position
        omega
      · exact above later member

theorem placed_ordered (rows : List Dump.IndexRow) : (placed rows).Pairwise (·.1 < ·.1) := by
  induction rows using List.reverseRecOn with
  | nil => exact .nil
  | append_singleton rows row ih =>
    rw [placed_concat]
    exact placeColumn_ordered ih

/-- A position keeps the column of its last row. -/
theorem mem_placed {rows : List Dump.IndexRow} {position : Nat} {column : String} :
    (position, column) ∈ placed rows ↔
      (Keyed.last? (·.position) position rows).map (·.column) = some column := by
  induction rows using List.reverseRecOn with
  | nil => simp [placed, Keyed.last?]
  | append_singleton rows row ih =>
    rw [placed_concat, mem_placeColumn (placed_ordered rows), Keyed.last?_concat, ih, Prod.mk.injEq]
    by_cases same : row.position = position
    · simp [same, eq_comm]
    · simp [same, Ne.symm same]

/-- The columns of a key in order of position, each from the last row of its position. -/
structure Places (rows : List Dump.IndexRow) (key : List (Nat × String)) : Prop where
  ordered : key.Pairwise (·.1 < ·.1)
  entries : ∀ position column, (position, column) ∈ key ↔
    ∃ row ∈ Keyed.last? (·.position) position rows, row.column = column

theorem places_placed (rows : List Dump.IndexRow) : Places rows (placed rows) where
  ordered := placed_ordered rows
  entries := fun position column => by rw [mem_placed, Option.map_eq_some_iff]; rfl

theorem Places.unique {rows : List Dump.IndexRow} {key key' : List (Nat × String)}
    (h : Places rows key) (h' : Places rows key') : key = key' := by
  have : Std.Irrefl fun a b : Nat × String => a.1 < b.1 := ⟨fun a => Nat.lt_irrefl a.1⟩
  have : Std.Antisymm fun a b : Nat × String => a.1 < b.1 :=
    ⟨fun a b less more => absurd less (Nat.lt_asymm more)⟩
  refine h.ordered.eq_of_mem_iff h'.ordered ?_
  rintro ⟨position, column⟩
  rw [h.entries, h'.entries]

/-! ### Groups -/

def groupOf (name : String) (rows : List Dump.IndexRow) : Group where
  name := name
  unique := rows.head?.any (isUnset ·.nonUnique)
  columns := placed rows

def rowsOf (name : String) (rows : List Dump.IndexRow) : List Dump.IndexRow :=
  rows.filter (·.name = name)

theorem addRow_map (row : Dump.IndexRow) {names : List String} (distinct : names.Nodup)
    {before after : String → Group} (named : ∀ name ∈ names, (before name).name = name)
    (changed : row.name ∈ names → after row.name =
      { before row.name with
        columns := placeColumn row.position row.column (before row.name).columns })
    (added : row.name ∉ names → after row.name =
      { name := row.name
        unique := isUnset row.nonUnique
        columns := [(row.position, row.column)] })
    (others : ∀ name, name ≠ row.name → after name = before name) :
    addRow row (names.map before) =
      (if row.name ∈ names then names else names ++ [row.name]).map after := by
  induction names with
  | nil => simp [addRow, added]
  | cons name names ih =>
    obtain ⟨fresh, distinct⟩ := List.nodup_cons.mp distinct
    rw [List.map_cons, addRow]
    -- The group of the row is the only one that changes.
    by_cases here : name = row.name
    · subst here
      have unchanged : names.map after = names.map before :=
        List.map_congr_left fun other member => others other fun same => fresh (same ▸ member)
      rw [if_pos (named row.name List.mem_cons_self), if_pos List.mem_cons_self, List.map_cons,
        changed List.mem_cons_self, unchanged]
    · have elsewhere : row.name ∈ name :: names ↔ row.name ∈ names := by simp [Ne.symm here]
      have rest := ih distinct (fun other member => named other (List.mem_cons_of_mem _ member))
        (fun member => changed (elsewhere.mpr member)) fun absent => added (mt elsewhere.mp absent)
      rw [named name List.mem_cons_self, if_neg here, rest]
      simp only [elsewhere]
      split <;> simp [others name here]

theorem rowsOf_concat_same (rows : List Dump.IndexRow) (row : Dump.IndexRow) :
    rowsOf row.name (rows ++ [row]) = rowsOf row.name rows ++ [row] := by
  simp [rowsOf]

theorem rowsOf_concat_other {name : String} (rows : List Dump.IndexRow) {row : Dump.IndexRow}
    (h : name ≠ row.name) : rowsOf name (rows ++ [row]) = rowsOf name rows := by
  simp [rowsOf, h.symm]

theorem rowsOf_eq_nil {name : String} {rows : List Dump.IndexRow} (h : name ∉ rows.map (·.name)) :
    rowsOf name rows = [] := by
  refine List.filter_eq_nil_iff.mpr fun row member => ?_
  have other : row.name ≠ name := fun same => h (same ▸ List.mem_map_of_mem member)
  simpa using other

theorem rowsOf_ne_nil {name : String} {rows : List Dump.IndexRow} (h : name ∈ rows.map (·.name)) :
    rowsOf name rows ≠ [] := by
  obtain ⟨row, member, same⟩ := List.mem_map.mp h
  exact List.ne_nil_of_mem (List.mem_filter.mpr ⟨member, by simpa using same⟩)

theorem groupOf_concat {rows : List Dump.IndexRow} {row : Dump.IndexRow}
    (h : row.name ∈ rows.map (·.name)) :
    groupOf row.name (rowsOf row.name (rows ++ [row])) =
      { groupOf row.name (rowsOf row.name rows) with
        columns := placeColumn row.position row.column
          (groupOf row.name (rowsOf row.name rows)).columns } := by
  rw [rowsOf_concat_same, groupOf, groupOf, placed_concat,
    List.head?_append_of_ne_nil _ (rowsOf_ne_nil h)]

theorem groupOf_first {rows : List Dump.IndexRow} {row : Dump.IndexRow}
    (h : row.name ∉ rows.map (·.name)) :
    groupOf row.name (rowsOf row.name (rows ++ [row])) =
      { name := row.name
        unique := isUnset row.nonUnique
        columns := [(row.position, row.column)] } := by
  rw [rowsOf_concat_same, rowsOf_eq_nil h]
  rfl

/-- Every index is put together from its own rows, in order of first mention. -/
theorem gather_eq (rows : List Dump.IndexRow) :
    gather rows =
      (rows.map (·.name)).eraseDups.map fun name => ofGroup (groupOf name (rowsOf name rows)) := by
  have groups : rows.foldl (fun groups row => addRow row groups) [] =
      (rows.map (·.name)).eraseDups.map fun name => groupOf name (rowsOf name rows) := by
    -- Rows are added from the left, so the last row is the one that is added.
    induction rows using List.reverseRecOn with
    | nil => rfl
    | append_singleton rows row ih =>
      rw [List.foldl_append, List.foldl_cons, List.foldl_nil, ih, List.map_append,
        List.map_singleton, Keyed.eraseDups_concat]
      rw [addRow_map row (Keyed.nodup_eraseDups (rows.map (·.name))) (fun _ _ => rfl)
        (fun member => groupOf_concat (List.mem_eraseDups.mp member))
        (fun absent => groupOf_first fun member => absent (List.mem_eraseDups.mpr member))
        fun name other => congrArg (groupOf name) (rowsOf_concat_other rows other)]
      simp only [List.mem_eraseDups]
  rw [gather, groups, List.map_map]
  rfl

theorem map_name_gather (rows : List Dump.IndexRow) :
    (gather rows).map (·.name) = (rows.map (·.name)).eraseDups := by
  rw [gather_eq, List.map_map]
  exact List.map_id _

theorem nodup_name_gather (rows : List Dump.IndexRow) : ((gather rows).map (·.name)).Nodup := by
  rw [map_name_gather]
  exact Keyed.nodup_eraseDups _

end TableMigration.Index
