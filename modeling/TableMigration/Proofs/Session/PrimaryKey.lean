import TableMigration.Proofs.Column.Counting
import TableMigration.Proofs.Session.Inventory

/-!
# Statements of primary keys

When the block of indexes declares the primary key. `primaryKeysIn_indexBlock` says that it does so
exactly once, unless the key is a single column that counts up and so declares the key itself.
-/

namespace TableMigration

/-- The statements of a block that declare a primary key. -/
def Statement.primaryKeysIn (block : String) : List String :=
  (statementsIn block).filter ("$table->primary(".toList.isPrefixOf ·.toList)

/-! ### Statements -/

namespace Index

theorem declaresPrimary_iff (index : Index) :
    "$table->primary(".toList.isPrefixOf index.statement.toList = true ↔
      index.name = primaryName := by
  rw [List.isPrefixOf_iff_prefix, statement]
  split
  · rename_i primary
    refine iff_of_true ?_ primary
    simp only [String.toList_append, List.append_assoc]
    exact List.prefix_append _ _
  · rename_i secondary
    refine iff_of_false ?_ secondary
    -- The letter after the arrow is another one.
    simp only [String.toList_append, List.append_assoc]
    split <;> simp

theorem primaryKeysIn_block {indexes : List Index} (lines : ∀ index ∈ indexes, index.OneLine)
    (indent : Nat) :
    Statement.primaryKeysIn (Statement.block indent (indexes.map statement)) =
      (indexes.filter (·.name = primaryName)).map statement := by
  have isLine : ∀ text ∈ indexes.map statement, Statement.IsLine text :=
    List.forall_mem_map.mpr fun index member => (lines index member).isLine
  rw [Statement.primaryKeysIn, Statement.statementsIn_block isLine, List.filter_map]
  refine congrArg _ (List.filter_congr fun index _ => ?_)
  rw [Bool.eq_iff_iff, decide_eq_true_eq]
  exact declaresPrimary_iff index

/-! ### The primary key -/

variable {rows : List Dump.IndexRow}

theorem filter_primary_gather (keyed : primaryName ∈ rows.map (·.name)) :
    (gather rows).filter (·.name = primaryName) =
      [ofGroup (groupOf primaryName (rowsOf primaryName rows))] := by
  have once : (rows.map (·.name)).eraseDups.filter (· = primaryName) = [primaryName] := by
    rw [List.filter_eq, List.count_eq_one_of_mem (Keyed.nodup_eraseDups _)
      (List.mem_eraseDups.mpr keyed)]
    rfl
  rw [gather_eq, List.filter_map]
  exact congrArg _ once

theorem filter_primary_listOfRows (keyed : primaryName ∈ rows.map (·.name))
    (columns : List Column) :
    (listOfRows rows columns).filter (·.name = primaryName) =
      if primaryIsImplicit (gather rows) columns then []
      else [ofGroup (groupOf primaryName (rowsOf primaryName rows))] := by
  rw [listOfRows]
  split
  · rw [List.filter_filter]
    exact List.filter_eq_nil_iff.mpr fun index _ => by simp
  · exact filter_primary_gather keyed

theorem filter_primary_indexesBeside {foreignKeyRows : List Dump.ForeignKeyRow}
    (unnamed : primaryName ∉ foreignKeyRows.map (·.name)) (indexes : List Index) :
    (ForeignKey.indexesBeside foreignKeyRows indexes).filter (·.name = primaryName) =
      indexes.filter (·.name = primaryName) := by
  rw [ForeignKey.indexesBeside_eq, List.filter_filter]
  refine List.filter_congr fun index _ => ?_
  by_cases primary : index.name = primaryName
  · simp [primary, unnamed]
  · simp [primary]

theorem not_implicit_of_two {columns : List Column} (distinct : (columns.map (·.field)).Nodup)
    (keyed : primaryName ∈ rows.map (·.name))
    (two : 2 ≤ (placed (rowsOf primaryName rows)).length) :
    primaryIsImplicit (gather rows) columns = false := by
  rw [Bool.eq_false_iff]
  intro implicit
  obtain ⟨row, last⟩ := Keyed.exists_last? (fun row : Dump.IndexRow => row.name) keyed
  have lastRow : (rowsOf primaryName rows).getLast? = some row := last
  have single := ((implicitPrimary_iff_of_last last).mp
    ((primaryIsImplicit_iff distinct).mp implicit)).1
  rw [placed_of_single lastRow single] at two
  exact absurd two (by simp)

theorem implicit_iff_of_one {columns : List Column} (distinct : (columns.map (·.field)).Nodup)
    (keyed : primaryName ∈ rows.map (·.name)) {position : Nat} {column : String}
    (one : placed (rowsOf primaryName rows) = [(position, column)]) :
    primaryIsImplicit (gather rows) columns = true ↔ column ∈ Column.countingFields columns := by
  obtain ⟨row, last⟩ := Keyed.exists_last? (fun row : Dump.IndexRow => row.name) keyed
  have lastRow : (rowsOf primaryName rows).getLast? = some row := last
  obtain ⟨single, entry⟩ := single_of_placed lastRow one
  obtain ⟨-, rfl⟩ := Prod.mk.inj entry
  rw [primaryIsImplicit_iff distinct, implicitPrimary_iff_of_last last, and_iff_right single,
    Column.mem_countingFields]
  rfl

end Index

namespace Session

section

variable {columns indexes foreignKeys : String} {columnRows : List Dump.ColumnRow}
  {indexRows : List Dump.IndexRow} {foreignKeyRows : List Dump.ForeignKeyRow}

/-- The block has the statement of the primary key once, or not at all if the key is implicit. -/
theorem primaryKeysIn_eq (table : String) (hc : Dump.readColumnRows columns = .ok columnRows)
    (hi : Dump.readIndexRows indexes = .ok indexRows)
    (hf : Dump.readForeignKeyRows foreignKeys = .ok foreignKeyRows)
    (unnamed : Index.primaryName ∉ foreignKeyRows.map (·.name))
    (keyed : Index.primaryName ∈ indexRows.map (·.name)) (indent : Nat) :
    Statement.primaryKeysIn (((start table).run
        [.columns columns, .indexes indexes, .foreignKeys foreignKeys]).blocks indent).indexes =
      if Index.primaryIsImplicit (Index.gather indexRows) (Column.listOfRows columnRows) then []
      else ["$table->primary(" ++ Statement.arguments
        ((Index.placed (Index.rowsOf Index.primaryName indexRows)).map (·.2)) ++ ");"] := by
  have lines := Index.oneLine_listOfRows (Dump.oneLine_of_readIndexRows hi)
    (Column.listOfRows columnRows)
  have kept : ∀ index ∈ ForeignKey.indexesBeside foreignKeyRows
      (Index.listOfRows indexRows (Column.listOfRows columnRows)), index.OneLine :=
    fun index member => lines index (List.mem_filter.mp member).1
  rw [run_dumps _ hc hi hf]
  refine (Index.primaryKeysIn_block kept indent).trans ?_
  rw [Index.filter_primary_indexesBeside unnamed, Index.filter_primary_listOfRows keyed]
  split
  · rfl
  · rfl

/-- The block of indexes declares the primary key of the rows, exactly once, if it has several
columns, or a single one without a row of its own. A single column of a supported type declares the
key itself exactly when its last row makes it an integer that counts up and not a boolean, whatever
else the dumps have and whatever conventions apply to the columns. -/
theorem primaryKeysIn_indexBlock (table : String)
    (hc : Dump.readColumnRows columns = .ok columnRows)
    (hi : Dump.readIndexRows indexes = .ok indexRows)
    (hf : Dump.readForeignKeyRows foreignKeys = .ok foreignKeyRows)
    (unnamed : Index.primaryName ∉ foreignKeyRows.map (·.name))
    (keyed : Index.primaryName ∈ indexRows.map (·.name)) (indent : Nat) :
    let block := (((start table).run
      [.columns columns, .indexes indexes, .foreignKeys foreignKeys]).blocks indent).indexes
    ∃ key, Index.Places (Index.rowsOf Index.primaryName indexRows) key ∧
      let statement := "$table->primary(" ++ Statement.arguments (key.map (·.2)) ++ ");"
      (2 ≤ key.length → Statement.primaryKeysIn block = [statement]) ∧
      ∀ position column, key = [(position, column)] →
        (column ∉ columnRows.map (·.field) → Statement.primaryKeysIn block = [statement]) ∧
        ∀ row ∈ Keyed.last? (·.field) column columnRows,
          ∀ parts ∈ TypeParts.ofText? row.type,
            Text.lower parts.base ∈ BaseType.supported.map (·.1) →
              (parts.CountsUp row.extra → Statement.primaryKeysIn block = []) ∧
              (¬parts.CountsUp row.extra → Statement.primaryKeysIn block = [statement]) := by
  intro block
  have distinct := Column.nodup_field_listOfRows columnRows
  refine ⟨_, Index.places_placed _, ?_⟩
  intro statement
  have written : Statement.primaryKeysIn block = _ :=
    primaryKeysIn_eq table hc hi hf unnamed keyed indent
  rw [written]
  refine ⟨fun two => ?_, fun position column one => ?_⟩
  · rw [Index.not_implicit_of_two distinct keyed two]
    rfl
  have implicit := Index.implicit_iff_of_one distinct keyed one
  rw [Column.mem_countingFields_listOfRows] at implicit
  refine ⟨fun missing => ?_, fun row last parts cut supported => ?_⟩
  · refine if_neg fun counted => ?_
    obtain ⟨row, last, -⟩ := implicit.mp counted
    obtain ⟨member, here⟩ := Keyed.last?_eq_some _ last
    exact missing (List.mem_map.mpr ⟨row, member, here⟩)
  · have resolved : ResolvedType.ofText row.type row.extra = .ofParts parts row.extra := by
      rw [ResolvedType.ofText, cut]
    have counted : Index.primaryIsImplicit (Index.gather indexRows) (Column.listOfRows columnRows) =
        true ↔ parts.CountsUp row.extra := by
      rw [implicit, ← ResolvedType.isCounting_ofParts _ supported, ← resolved]
      constructor
      · rintro ⟨other, last', counts⟩
        rwa [Option.some.inj (last.symm.trans last')]
      · exact fun counts => ⟨row, last, counts⟩
    exact ⟨fun counts => if_pos (counted.mpr counts), fun not => if_neg (mt counted.mp not)⟩

theorem primaryKeysIn_indexBlock_posts :
    let columns := "\nid\tInt(10)\tNO\tPRI\tNULL\tauto_increment\t\nday\tdate\tNO\t\tNULL\t\t"
    let declared := fun indexes : String => Statement.primaryKeysIn (((start "posts").run
      [.columns columns, .indexes indexes, .foreignKeys ""]).blocks 8).indexes
    declared "\nt\t0\tPRIMARY\t1\tid\t\nt\t1\tdays\t1\tday\t" = [] ∧
      declared "\nt\t0\tPRIMARY\t1\tday\t" = ["$table->primary('day');"] ∧
      declared "\nt\t0\tPRIMARY\t2\tday\t\nt\t0\tPRIMARY\t1\tid\t" =
        ["$table->primary(['id', 'day']);"] := by
  intro columns declared
  have hc : Dump.readColumnRows columns =
      .ok [⟨"id", "Int(10)", "NO", "PRI", "NULL", "auto_increment", ""⟩,
        ⟨"day", "date", "NO", "", "NULL", "", ""⟩] := by
    decide +kernel
  have hf : Dump.readForeignKeyRows "" = .ok [] := by decide +kernel
  refine ⟨?_, ?_, ?_⟩
  · have hi : Dump.readIndexRows "\nt\t0\tPRIMARY\t1\tid\t\nt\t1\tdays\t1\tday\t" =
        .ok [⟨"t", "0", "PRIMARY", 1, "id", ""⟩, ⟨"t", "1", "days", 1, "day", ""⟩] := by
      decide +kernel
    obtain ⟨key, places, -, single⟩ :=
      primaryKeysIn_indexBlock "posts" hc hi hf (by decide) (by decide) 8
    have one : key = [(1, "id")] := places.unique (Index.places_placed _)
    exact ((single 1 "id" one).2 _ rfl ⟨"Int", .scalar "10", none⟩ (by decide +kernel)
      (by decide +kernel)).1 (by decide +kernel)
  · have hi : Dump.readIndexRows "\nt\t0\tPRIMARY\t1\tday\t" =
        .ok [⟨"t", "0", "PRIMARY", 1, "day", ""⟩] := by
      decide +kernel
    obtain ⟨key, places, -, single⟩ :=
      primaryKeysIn_indexBlock "posts" hc hi hf (by decide) (by decide) 8
    obtain rfl : key = [(1, "day")] := places.unique (Index.places_placed _)
    exact ((single 1 "day" rfl).2 _ rfl ⟨"date", .none, none⟩ (by decide +kernel)
      (by decide +kernel)).2 (by decide +kernel)
  · have hi : Dump.readIndexRows "\nt\t0\tPRIMARY\t2\tday\t\nt\t0\tPRIMARY\t1\tid\t" =
        .ok [⟨"t", "0", "PRIMARY", 2, "day", ""⟩, ⟨"t", "0", "PRIMARY", 1, "id", ""⟩] := by
      decide +kernel
    obtain ⟨key, places, several, -⟩ :=
      primaryKeysIn_indexBlock "posts" hc hi hf (by decide) (by decide) 8
    obtain rfl : key = [(1, "id"), (2, "day")] := places.unique (Index.places_placed _)
    exact several (by decide)

end

end Session

end TableMigration
