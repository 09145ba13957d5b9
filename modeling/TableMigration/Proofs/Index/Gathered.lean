import TableMigration.Proofs.Index.Primary

/-!
# Indexes and their rows

What an index tells of the rows that it comes from. `listOfRows_gathered` ties each index to the
rows of its name, and `listOfRows_perm` says that the order in which rows arrive does not show if no
two of them are for the same place.
-/

namespace TableMigration.Index

/-! ### One index -/

/-- An index that the rows of its name make: the first of them says whether it is unique, and every
position among them has a column. -/
structure Gathered (rows : List Dump.IndexRow) (index : Index) : Prop where
  unique : ∃ row ∈ (rowsOf index.name rows).head?,
    (index.unique = true ↔ Text.trim row.nonUnique.toList ∈ [[], ['0']])
  columns : ∃ key, Places (rowsOf index.name rows) key ∧ index.columns = key.map (·.2)
  nonempty : index.columns ≠ []

theorem isUnset_iff {flag : String} :
    isUnset flag = true ↔ Text.trim flag.toList ∈ [[], ['0']] := by
  simp [isUnset]

theorem placed_ne_nil {rows : List Dump.IndexRow} (h : rows ≠ []) : placed rows ≠ [] := by
  obtain ⟨row, member⟩ := List.exists_mem_of_ne_nil rows h
  obtain ⟨last, found⟩ := Keyed.exists_last? (fun row : Dump.IndexRow => row.position)
    (List.mem_map_of_mem member)
  exact List.ne_nil_of_mem (mem_placed.mpr (by rw [found]; rfl))

theorem gathered_ofGroup {rows : List Dump.IndexRow} {name : String}
    (named : name ∈ rows.map (·.name)) :
    Gathered rows (ofGroup (groupOf name (rowsOf name rows))) := by
  have present := rowsOf_ne_nil named
  refine ⟨?_, ⟨_, places_placed _, rfl⟩, ?_⟩
  · refine ⟨_, List.head?_eq_some_head present, ?_⟩
    rw [← isUnset_iff, ofGroup, groupOf, List.head?_eq_some_head present, Option.any_some]
  · exact mt List.map_eq_nil_iff.mp (placed_ne_nil present)

theorem gathered_of_mem_gather {rows : List Dump.IndexRow} {index : Index}
    (member : index ∈ gather rows) : Gathered rows index := by
  rw [gather_eq] at member
  obtain ⟨name, named, rfl⟩ := List.mem_map.mp member
  exact gathered_ofGroup (List.mem_eraseDups.mp named)

/-! ### The primary key -/

theorem listOfRows_sublist (rows : List Dump.IndexRow) (columns : List Column) :
    (listOfRows rows columns).Sublist (gather rows) := by
  rw [listOfRows]
  split
  · exact List.filter_sublist
  · exact .refl _

/-- At most one index is left out, and that is the primary key. -/
theorem listOfRows_eq_or (rows : List Dump.IndexRow) (columns : List Column) :
    listOfRows rows columns = gather rows ∨
      ∃ before primary after, gather rows = before ++ primary :: after ∧
        primary.name = primaryName ∧ listOfRows rows columns = before ++ after := by
  rw [listOfRows]
  split
  · -- Names are distinct, so what is left out is one index.
    by_cases keyed : ∃ primary ∈ gather rows, primary.name = primaryName
    · obtain ⟨primary, member, named⟩ := keyed
      obtain ⟨before, after, whole, rest⟩ :=
        Keyed.exists_filter_ne name (nodup_name_gather rows) member
      exact .inr ⟨before, primary, after, whole, named, named ▸ rest⟩
    · refine .inl (List.filter_eq_self.mpr fun index member => ?_)
      have other : index.name ≠ primaryName := fun named => keyed ⟨index, member, named⟩
      simpa using other
  · exact .inl rfl

/-- Each name of the rows has one index, in order of first mention, and that is the one that its own
rows make. The table declares all of them in this order, or leaves out the primary key alone. -/
theorem listOfRows_gathered (rows : List Dump.IndexRow) (columns : List Column) :
    (gather rows).map (·.name) = (rows.map (·.name)).eraseDups ∧
      ((gather rows).map (·.name)).Nodup ∧
      (∀ index ∈ gather rows, Gathered rows index) ∧
      (listOfRows rows columns = gather rows ∨
        ∃ before primary after, gather rows = before ++ primary :: after ∧
          primary.name = primaryName ∧ listOfRows rows columns = before ++ after) :=
  ⟨map_name_gather rows, nodup_name_gather rows, fun _ => gathered_of_mem_gather,
    listOfRows_eq_or rows columns⟩

example :
    gather [⟨"posts", "1", "slug", 2, "lang", ""⟩, ⟨"posts", "0", "mail", 4, "mail", ""⟩,
      ⟨"posts", "0", "slug", 2, "locale", ""⟩, ⟨"posts", "", "slug", 1, "title", ""⟩] =
      [⟨"slug", false, ["title", "locale"]⟩, ⟨"mail", true, ["mail"]⟩] := by
  decide

/-! ### Rows in another order -/

section

variable {rows rows' : List Dump.IndexRow} (same : rows.Perm rows')
include same

theorem placed_perm (apart : (rows.map (·.position)).Nodup) : placed rows = placed rows' := by
  have places : Places rows (placed rows') := by
    refine ⟨placed_ordered rows', fun position column => ?_⟩
    rw [(places_placed rows').entries, Keyed.last?_perm _ apart same]
  exact (places_placed rows).unique places

theorem any_head?_perm {p : Dump.IndexRow → Bool}
    (agree : ∀ row ∈ rows, ∀ other ∈ rows, p row = p other) :
    rows.head?.any p = rows'.head?.any p := by
  cases rows with
  | nil => rw [List.nil_perm.mp same]
  | cons first rest =>
    cases rows' with
    | nil => cases same.eq_nil
    | cons first' rest' =>
      exact agree first List.mem_cons_self first' (same.mem_iff.mpr List.mem_cons_self)

variable (apart : (rows.map fun row => (row.name, row.position)).Nodup)
  (agree : ∀ row ∈ rows, ∀ other ∈ rows, row.name = other.name →
    isUnset row.nonUnique = isUnset other.nonUnique)
include apart agree

theorem groupOf_perm (name : String) :
    groupOf name (rowsOf name rows) = groupOf name (rowsOf name rows') := by
  have ofName : (rowsOf name rows).Perm (rowsOf name rows') := same.filter _
  have named : ∀ row ∈ rowsOf name rows, row ∈ rows ∧ row.name = name := by
    simp [rowsOf]
  have positions : ((rowsOf name rows).map (·.position)).Nodup := by
    have pairs : ((rowsOf name rows).map fun row => (row.name, row.position)).Nodup :=
      apart.sublist (List.filter_sublist.map _)
    have paired : (rowsOf name rows).map (fun row => (row.name, row.position)) =
        ((rowsOf name rows).map (·.position)).map fun position => (name, position) := by
      rw [List.map_map]
      exact List.map_congr_left fun row member => by simp [(named row member).2]
    rw [paired] at pairs
    exact pairs.of_map _
  have flags : ∀ row ∈ rowsOf name rows, ∀ other ∈ rowsOf name rows,
      isUnset row.nonUnique = isUnset other.nonUnique := by
    intro row member other member'
    obtain ⟨inside, here⟩ := named row member
    obtain ⟨inside', here'⟩ := named other member'
    exact agree row inside other inside' (here.trans here'.symm)
  rw [groupOf, groupOf, placed_perm ofName positions, any_head?_perm ofName flags]

theorem gather_perm : (gather rows).Perm (gather rows') := by
  have names : (rows.map (·.name)).eraseDups.Perm (rows'.map (·.name)).eraseDups := by
    refine (List.perm_ext_iff_of_nodup (Keyed.nodup_eraseDups _) (Keyed.nodup_eraseDups _)).mpr ?_
    intro name
    rw [List.mem_eraseDups, List.mem_eraseDups]
    exact (same.map _).mem_iff
  rw [gather_eq, gather_eq]
  simp only [groupOf_perm same apart agree]
  exact names.map _

theorem primaryIsImplicit_perm (columns : List Column) :
    primaryIsImplicit (gather rows) columns = primaryIsImplicit (gather rows') columns := by
  rw [primaryIsImplicit, primaryIsImplicit,
    Keyed.find?_perm name (nodup_name_gather rows) (gather_perm same apart agree)]

/-- Rows for different places make the same indexes in whatever order they arrive, if those of one
name agree on whether it is unique. The primary key is left out of both or of neither. -/
theorem listOfRows_perm (columns : List Column) :
    (listOfRows rows columns).Perm (listOfRows rows' columns) ∧
      (∀ name, (listOfRows rows columns).find? (·.name == name) =
        (listOfRows rows' columns).find? (·.name == name)) ∧
      primaryIsImplicit (gather rows) columns = primaryIsImplicit (gather rows') columns := by
  have implicit := primaryIsImplicit_perm same apart agree columns
  have indexes := gather_perm same apart agree
  -- Whether the primary key is left out does not depend on the order either.
  have declared : (listOfRows rows columns).Perm (listOfRows rows' columns) := by
    rw [listOfRows, listOfRows, implicit]
    split
    · exact indexes.filter _
    · exact indexes
  have distinct : ((listOfRows rows columns).map (·.name)).Nodup :=
    (nodup_name_gather rows).sublist ((listOfRows_sublist rows columns).map _)
  exact ⟨declared, Keyed.find?_perm name distinct declared, implicit⟩

end

theorem listOfRows_perm_posts :
    let row := fun flag name position column => Dump.IndexRow.mk "posts" flag name position column ""
    let rows := [row "0" "PRIMARY" 1 "id", row "1" "slug" 2 "lang", row "" "mail" 3 "mail",
      row "1" "slug" 1 "title"]
    let rows' := [row "1" "slug" 1 "title", row "" "mail" 3 "mail", row "1" "slug" 2 "lang",
      row "0" "PRIMARY" 1 "id"]
    let id := Column.mk "id" "id" "int(11)" "increments" .none none false none ""
    rows.Perm rows' ∧ (rows.map fun row => (row.name, row.position)).Nodup ∧
      (∀ row ∈ rows, ∀ other ∈ rows, row.name = other.name →
        isUnset row.nonUnique = isUnset other.nonUnique) ∧
      (listOfRows rows [id]).Perm (listOfRows rows' [id]) ∧
      listOfRows rows' [id] = [⟨"slug", false, ["title", "lang"]⟩, ⟨"mail", true, ["mail"]⟩] ∧
      primaryIsImplicit (gather rows) [id] = true := by
  intro row rows rows' id
  have same : rows.Perm rows' := by decide
  have apart : (rows.map fun row => (row.name, row.position)).Nodup := by decide
  have agree : ∀ row ∈ rows, ∀ other ∈ rows, row.name = other.name →
      isUnset row.nonUnique = isUnset other.nonUnique := by decide
  obtain ⟨declared, -, implicit⟩ := listOfRows_perm same apart agree [id]
  exact ⟨same, apart, agree, declared, by decide +kernel, implicit.trans (by decide +kernel)⟩

end TableMigration.Index
