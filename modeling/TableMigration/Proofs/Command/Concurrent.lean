import TableMigration.Command.Batch
import TableMigration.Proofs.File.Interleaving

/-!
# Converting tables side by side

The tables of a directory are converted by workers that take turns (`BatchRun`). Which tables there
are is settled before (`run_findTables`), and converting one after another is one way of taking turns
(`batchRun_batch`).
-/

namespace TableMigration.File.Tree

theorem lookup_of_mem {entries : List (Place × Entry)} (distinct : (entries.map (·.1)).Nodup)
    {place : Place} {entry : Entry} (member : (place, entry) ∈ entries) :
    entries.lookup place = some entry := by
  induction entries with
  | nil => cases member
  | cons first rest ih =>
    obtain ⟨key, value⟩ := first
    rw [List.map_cons, List.nodup_cons] at distinct
    rw [lookup_cons_eq_ite]
    rcases List.mem_cons.mp member with same | later
    · obtain ⟨rfl, rfl⟩ := Prod.mk.inj same
      exact if_pos rfl
    · rw [if_neg, ih distinct.2 later]
      rintro rfl
      exact distinct.1 (List.mem_map.mpr ⟨_, later, rfl⟩)

/-- The name of a place directly inside another. -/
def nameIn? (place inner : Place) : Option String :=
  inner.getLast?.bind fun name => if inner.dropLast = place then some name else none

theorem nameIn?_eq_some_iff {place inner : Place} {name : String} :
    nameIn? place inner = some name ↔ inner = place ++ [name] := by
  rw [nameIn?, Option.bind_eq_some_iff]
  constructor
  · rintro ⟨last, found, inside⟩
    split_ifs at inside with same
    obtain rfl := Option.some.inj inside
    obtain ⟨before, rfl⟩ := List.getLast?_eq_some_iff.mp found
    rw [← same, List.dropLast_concat]
  · rintro rfl
    exact ⟨name, by simp, by simp⟩

theorem children_perm (tree : Tree) (place : Place) :
    (tree.children place).Perm
      (tree.entries.filterMap fun item =>
        (nameIn? place item.1).map fun name => (name, item.2.kind)) := by
  rw [children]
  refine (Sorting.sort_perm _ _).trans (.of_eq (List.filterMap_congr fun item _ => ?_))
  obtain ⟨inner, entry⟩ := item
  rw [nameIn?]
  dsimp only
  rcases inner.getLast? with - | name
  · rfl
  · dsimp only [Option.bind_some]
    split_ifs <;> rfl

theorem get?_of_mem_children {tree : Tree} (sound : tree.Sound) {place : Place} {name : String}
    {kind : Kind} (h : (name, kind) ∈ tree.children place) :
    ∃ entry, tree.get? (place ++ [name]) = some entry ∧ entry.kind = kind := by
  obtain ⟨⟨inner, entry⟩, member, shown⟩ :=
    List.mem_filterMap.mp ((children_perm tree place).mem_iff.mp h)
  obtain ⟨last, found, same⟩ := Option.map_eq_some_iff.mp shown
  obtain ⟨rfl, rfl⟩ := Prod.mk.inj same
  obtain rfl := nameIn?_eq_some_iff.mp found
  refine ⟨entry, ?_, rfl⟩
  rw [get?_of_ne_nil (by simp)]
  exact lookup_of_mem sound.distinct member

theorem mem_children_of_get? {tree : Tree} {place : Place} {name : String} {entry : Entry}
    (h : tree.get? (place ++ [name]) = some entry) : (name, entry.kind) ∈ tree.children place := by
  rw [get?_of_ne_nil (by simp)] at h
  refine (children_perm tree place).mem_iff.mpr (List.mem_filterMap.mpr ⟨_, mem_of_lookup h, ?_⟩)
  rw [nameIn?_eq_some_iff.mpr rfl]
  rfl

theorem nodup_children {tree : Tree} (sound : tree.Sound) (place : Place) :
    ((tree.children place).map (·.1)).Nodup := by
  have names : (tree.entries.filterMap fun item =>
      (nameIn? place item.1).map fun name => (name, item.2.kind)).map (·.1) =
      (tree.entries.map (·.1)).filterMap (nameIn? place) := by
    rw [List.map_filterMap, List.filterMap_map]
    refine List.filterMap_congr fun item _ => ?_
    rw [Option.map_map, Function.comp]
    cases nameIn? place item.1 <;> rfl
  refine ((children_perm tree place).map _).nodup_iff.mpr ?_
  rw [names]
  refine sound.distinct.filterMap fun first second name inFirst inSecond => ?_
  rw [nameIn?_eq_some_iff.mp inFirst, nameIn?_eq_some_iff.mp inSecond]

end TableMigration.File.Tree

namespace TableMigration.Command

open File (Script Tree Pool)

/-! ### Finding the tables -/

theorem run_present? (path : String) (tree : Tree) :
    (present? path).run tree = (if (tree.status path).isSome then some path else none, tree) := rfl

/-- The dumps of the table in a directory of a tree, if it holds a dump of columns. -/
def tableAt? (tree : Tree) (config : Config) (directory : String) (item : String × File.Kind) :
    Option TableDumps :=
  let inside := File.Path.join (File.Path.join directory item.1)
  let present := fun name =>
    if (tree.status (inside name)).isSome then some (inside name) else none
  if item.2 = .directory ∧ (tree.status (inside config.dump.structureFile)).isSome then
    some {
      table := item.1
      structureFile := inside config.dump.structureFile
      keysFile := present config.dump.keysFile
      constraintsFile := present config.dump.constraintsFile }
  else none

theorem run_dumpsIn? (tree : Tree) (config : Config) (directory name : String) :
    (dumpsIn? config directory name).run tree =
      (tableAt? tree config directory (name, .directory), tree) := by
  rw [dumpsIn?, Script.run_bind, run_present?, tableAt?]
  dsimp only
  by_cases present :
      (tree.status (File.Path.join (File.Path.join directory name) config.dump.structureFile)).isSome
  · rw [if_pos present, if_pos ⟨rfl, present⟩]
    rfl
  · rw [if_neg present, if_neg fun both => present both.2]
    rfl

theorem run_dumpsAmong (tree : Tree) (config : Config) (directory : String)
    (items : List (String × File.Kind)) :
    (dumpsAmong config directory items).run tree =
      (items.filterMap (tableAt? tree config directory), tree) := by
  induction items with
  | nil => rfl
  | cons item items ih =>
    obtain ⟨name, kind⟩ := item
    rw [dumpsAmong, List.filterMap_cons]
    split_ifs with isDirectory
    · subst isDirectory
      rw [Script.run_bind, run_dumpsIn?, Script.run_bind, ih]
      cases tableAt? tree config directory (name, .directory) <;> rfl
    · rw [Script.run_bind, Script.run_pure, Script.run_bind, ih, tableAt?, if_neg]
      · rfl
      · exact fun both => isDirectory both.1

/-- The tables are the directories in the directory of dumps that hold a dump of columns. -/
theorem run_findTables (tree : Tree) (config : Config) (directory : String) :
    (findTables config directory).run tree =
      match tree.list directory with
      | .error fault => (.error (.listDumps directory fault), tree)
      | .ok items => (.ok (items.filterMap (tableAt? tree config directory)), tree) := by
  have listed : (Script.list directory).run tree = (tree.list directory, tree) := rfl
  rw [findTables, Script.run_bind, listed]
  rcases tree.list directory with fault | items
  · rfl
  · dsimp only
    rw [Script.run_bind, run_dumpsAmong]
    rfl

theorem findTables_eq_ok {tree : Tree} {config : Config} {directory : String}
    {tables : List TableDumps} (h : (findTables config directory).run tree = (.ok tables, tree)) :
    ∃ items, tree.list directory = .ok items ∧
      tables = items.filterMap (tableAt? tree config directory) := by
  rw [run_findTables] at h
  rcases listed : tree.list directory with fault | items
  · rw [listed] at h
    cases h
  · rw [listed] at h
    exact ⟨items, rfl, (Except.ok.inj (Prod.mk.inj h).1).symm⟩

def TableDumps.paths (dumps : TableDumps) : List String :=
  dumps.structureFile :: (dumps.keysFile.toList ++ dumps.constraintsFile.toList)

/-- There is a table of this name in the directory of dumps. -/
def IsTable (tree : Tree) (config : Config) (directory name : String) : Prop :=
  tree.get? (tree.placeOf directory ++ [name]) = some .directory ∧
    (tree.status (File.Path.join (File.Path.join directory name) config.dump.structureFile)).isSome

theorem tableAt?_eq_some {tree : Tree} {config : Config} {directory : String}
    {item : String × File.Kind} {dumps : TableDumps}
    (h : tableAt? tree config directory item = some dumps) :
    dumps.table = item.1 ∧ item.2 = .directory ∧
      (tree.status (File.Path.join (File.Path.join directory item.1)
        config.dump.structureFile)).isSome ∧
      ∀ path ∈ dumps.paths, (tree.status path).isSome := by
  rw [tableAt?] at h
  dsimp only at h
  split_ifs at h with given keys constraints constraints <;> obtain rfl := Option.some.inj h <;>
    refine ⟨rfl, given.1, given.2, ?_⟩ <;> simp_all [TableDumps.paths]

theorem map_table_sublist (tree : Tree) (config : Config) (directory : String)
    (items : List (String × File.Kind)) :
    ((items.filterMap (tableAt? tree config directory)).map (·.table)).Sublist (items.map (·.1)) := by
  induction items with
  | nil => exact .slnil
  | cons item items ih =>
    rw [List.filterMap_cons, List.map_cons]
    rcases found : tableAt? tree config directory item with - | dumps
    · exact ih.cons _
    · dsimp only
      rw [List.map_cons, (tableAt?_eq_some found).1]
      exact ih.cons_cons _

section

variable {tree : Tree} {config : Config} {directory : String} {tables : List TableDumps}
  (h : (findTables config directory).run tree = (.ok tables, tree))
include h

theorem present_of_findTables {dumps : TableDumps} (member : dumps ∈ tables) {path : String}
    (given : path ∈ dumps.paths) : (tree.status path).isSome = true := by
  obtain ⟨items, -, rfl⟩ := findTables_eq_ok h
  obtain ⟨item, -, found⟩ := List.mem_filterMap.mp member
  exact (tableAt?_eq_some found).2.2.2 path given

variable (sound : tree.Sound)
include sound

/-- The tables of a sound tree have proper names, each another. -/
theorem tables_of_findTables :
    (tables.map (·.table)).Nodup ∧ ∀ dumps ∈ tables, File.IsName dumps.table := by
  obtain ⟨items, listed, rfl⟩ := findTables_eq_ok h
  have names : (items.map (·.1)).Nodup ∧ ∀ name ∈ items.map (·.1), File.IsName name := by
    rw [Tree.list] at listed
    rcases found : tree.find directory with fault | ⟨place, content | ⟨⟩⟩
    · rw [found] at listed
      cases listed
    · rw [found] at listed
      obtain rfl := Except.ok.inj listed
      simp
    · rw [found] at listed
      obtain rfl := Except.ok.inj listed
      refine ⟨Tree.nodup_children sound place, fun name member => ?_⟩
      obtain ⟨⟨_, kind⟩, inside, rfl⟩ := List.mem_map.mp member
      obtain ⟨entry, there, -⟩ := Tree.get?_of_mem_children sound inside
      exact sound.name (by rw [there]; rfl)
  have sub := map_table_sublist tree config directory items
  exact ⟨names.1.sublist sub, fun dumps member =>
    names.2 _ (sub.subset (List.mem_map_of_mem member))⟩

theorem mem_tables_iff {name : String} :
    name ∈ tables.map (·.table) ↔ IsTable tree config directory name := by
  obtain ⟨items, listed, rfl⟩ := findTables_eq_ok h
  -- A file lists nothing, and nothing stands below it.
  have inside : ∀ kind, (name, kind) ∈ items ↔
      ∃ entry, tree.get? (tree.placeOf directory ++ [name]) = some entry ∧ entry.kind = kind := by
    intro kind
    rw [Tree.list] at listed
    rcases found : tree.find directory with fault | ⟨place, content | ⟨⟩⟩
    · rw [found] at listed
      cases listed
    · rw [found] at listed
      obtain rfl := Except.ok.inj listed
      obtain ⟨rfl, file⟩ := Tree.find_place found
      refine ⟨nofun, fun ⟨entry, there, _⟩ => ?_⟩
      rw [sound.parent (by rw [there]; rfl)] at file
      cases file
    · rw [found] at listed
      obtain rfl := Except.ok.inj listed
      obtain ⟨rfl, -⟩ := Tree.find_place found
      refine ⟨Tree.get?_of_mem_children sound, ?_⟩
      rintro ⟨entry, there, rfl⟩
      exact Tree.mem_children_of_get? there
  rw [IsTable, List.mem_map]
  constructor
  · rintro ⟨dumps, member, rfl⟩
    obtain ⟨⟨_, _⟩, member, found⟩ := List.mem_filterMap.mp member
    obtain ⟨rfl, rfl, present, -⟩ := tableAt?_eq_some found
    obtain ⟨entry, there, same⟩ := (inside _).mp member
    cases entry with
    | file content => cases same
    | directory => exact ⟨there, present⟩
  · rintro ⟨there, present⟩
    have member := (inside .directory).mpr ⟨.directory, there, rfl⟩
    rcases found : tableAt? tree config directory (name, .directory) with - | dumps
    · rw [tableAt?, if_pos ⟨rfl, present⟩] at found
      cases found
    · exact ⟨dumps, List.mem_filterMap.mpr ⟨_, member, found⟩, (tableAt?_eq_some found).1⟩

end

/-! ### Taking turns -/

/-- The workers of a batch, one for each table. -/
def workers (setup : Setup) (outputDirectory : String) (moment : Option Moment)
    (tables : List TableDumps) (tree : Tree) : Pool TableResult where
  scripts := tables.map (convertInto setup outputDirectory moment)
  tree := tree

theorem length_of_done {setup : Setup} {outputDirectory : String} {moment : Option Moment}
    {tables : List TableDumps} {before after : Tree} {schedule : List Nat}
    {results : List TableResult}
    (ran : (workers setup outputDirectory moment tables before).run schedule =
      .done results after) : results.length = tables.length := by
  have lengths := Pool.length_run (workers setup outputDirectory moment tables before) schedule
  rw [ran] at lengths
  simpa [Pool.done, workers] using lengths

theorem safe_workers_of_each {setup : Setup} {outputDirectory : String} {moment : Option Moment}
    {tables : List TableDumps} {tree : Tree} {R : Nat → Tree → Tree → Prop}
    {G : TableDumps → Tree → Tree → Prop} {P : Nat → TableDumps → TableResult → Tree → Prop}
    (each : ∀ i dumps, tables[i]? = some dumps →
      (convertInto setup outputDirectory moment dumps).Safe (R i) (G dumps) (P i dumps) tree) :
    (workers setup outputDirectory moment tables tree).Safe R
      (fun i before after => ∃ dumps, tables[i]? = some dumps ∧ G dumps before after)
      (fun i result after => ∀ dumps, tables[i]? = some dumps → P i dumps result after) := by
  intro i script isScript
  obtain ⟨dumps, isTable, rfl⟩ := Option.map_eq_some_iff.mp
    ((List.getElem?_map).symm.trans isScript)
  refine ((each i dumps isTable).allow fun _ _ done => ⟨dumps, isTable, done⟩).weaken
    fun result after becomes other isOther => ?_
  obtain rfl := Option.some.inj (isTable.symm.trans isOther)
  exact becomes

/-- A batch whose workers take turns by a schedule, and report in the order in which they happen to
be done. -/
structure BatchRun (setup : Setup) (now : Moment) (directory outputDirectory : String)
    (before : Tree) (tables : List TableDumps) (schedule : List Nat) (results : List TableResult)
    (report : Report) (after : Tree) : Prop where
  found : (findTables setup.config directory).run before = (.ok tables, before)
  ran : (workers setup outputDirectory (setup.moment now) tables before).run schedule =
    .done results after
  reported : ∃ order, order.Perm results ∧ report = .ofResults order

theorem run_convertEach (setup : Setup) (directory : String) (moment : Option Moment)
    (tables : List TableDumps) (tree : Tree) :
    (convertEach setup directory moment tables).run tree =
      Pool.runEach (tables.map (convertInto setup directory moment)) tree := by
  induction tables generalizing tree with
  | nil => rfl
  | cons dumps tables ih =>
    rw [convertEach, Script.run_bind, Script.run_bind, ih]
    rfl

/-- Converting the tables one after another is a batch of which the workers take turns. -/
theorem batchRun_batch {setup : Setup} {now : Moment} {directory outputDirectory : String}
    {before after : Tree} {report : Report}
    (h : (batch setup now directory outputDirectory).run before = (.ok report, after)) :
    ∃ tables schedule results,
      BatchRun setup now directory outputDirectory before tables schedule results report after := by
  rw [batch, Script.run_bind, run_findTables] at h
  rcases listed : before.list directory with fault | items
  · rw [listed] at h
    cases h
  rw [listed] at h
  dsimp only at h
  rw [Script.run_bind, run_convertEach] at h
  obtain ⟨same, rfl⟩ := Prod.mk.inj h
  obtain rfl := Except.ok.inj same
  obtain ⟨schedule, ran⟩ := Pool.exists_runEach [] ((items.filterMap
    (tableAt? before setup.config directory)).map
      (convertInto setup outputDirectory (setup.moment now))) before
  refine ⟨_, schedule, _, ?_, ran, _, .refl _, rfl⟩
  rw [run_findTables, listed]

end TableMigration.Command
