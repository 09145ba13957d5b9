import TableMigration.Proofs.Command.Alone
import TableMigration.Proofs.Command.Overwriting
import TableMigration.Proofs.File.Making

/-!
# Converting a table beside others, as if alone

If nothing that is written is a dump that is read, a table that is converted beside others comes to
what it comes to alone (`safe_convertInto_beside`).
-/

namespace TableMigration.Command

open File (Script Tree Reliable Place)

/-- Both are the same, but for why the directory could not be made. -/
def SameButDirectory (directory : String) (outcome other : Except Failure String) : Prop :=
  outcome = other ∨ ∃ fault fault', outcome = .error (.makeOutputDirectory directory fault) ∧
    other = .error (.makeOutputDirectory directory fault')

section

variable (setup : Setup) (directory : String) (moment : Option Moment) (start : Tree)
  (tables : List TableDumps)

/-- The tables have proper names, and no file that is written is a dump that is read. -/
structure Separate : Prop where
  sound : start.Sound
  proper : ∀ dumps ∈ tables, '/' ∉ dumps.table.toList
  present : ∀ dumps ∈ tables, ∀ path ∈ dumps.paths, (start.status path).isSome = true
  apart : ∀ dumps ∈ tables, ∀ path ∈ dumps.paths, ∀ other ∈ tables,
    start.placeOf path ≠ fileOf directory moment other.table start

/-- Converted alone, the table leaves the migration in its file. -/
def Writes (dumps : TableDumps) (migration : String) : Prop :=
  conversion setup start dumps = .ok migration ∧
    ∃ path, (alone setup directory moment start dumps).outcome = .ok path

/-- A tree in which tables are being converted: files are those from the start, and those of tables
that are written when converted alone. -/
structure Batching (tree : Tree) : Prop extends
    File.Making start ((Script.makeDirectories directory).run start).2
      ((Script.makeDirectories directory).run start).1 (File.Path.ancestors directory) tree where
  directories : ∀ {place}, tree.get? place = some .directory →
    ((Script.makeDirectories directory).run start).2.get? place = some .directory
  files : ∀ {place content}, tree.get? place = some (.file content) →
    start.get? place = some (.file content) ∨ ∃ dumps ∈ tables, ∃ migration,
      Writes setup directory moment start dumps migration ∧
        place = fileOf directory moment dumps.table start ∧ content = migration.toUTF8
  kept : ∀ {place content}, start.get? place = some (.file content) →
    (∀ dumps ∈ tables, ∀ migration, Writes setup directory moment start dumps migration →
      place ≠ fileOf directory moment dumps.table start) →
    tree.get? place = some (.file content)

/-- What others may do while a table is converted: files in some places they leave alone. -/
structure Beside (kept : Place → Prop) (before after : Tree) : Prop where
  grows : before.Grows after
  batching : Batching setup directory moment start tables after
  own : ∀ {place content}, kept place → before.get? place = some (.file content) →
    after.get? place = some (.file content)

/-- What a worker does: it writes to no file but that of its table, and makes no change at all if the
dumps cannot be converted. -/
structure Converts (dumps : TableDumps) (before after : Tree) : Prop where
  writes : WritesOnly (fileOf directory moment dumps.table start) before after
  batching : Batching setup directory moment start tables after
  changes : (∃ migration, conversion setup start dumps = .ok migration) ∨ after = before

/-- A table comes to what it comes to alone, but for why the directory could not be made. Its file is
left to it if others leave it alone. -/
structure ComesToAlone (dumps : TableDumps) (kept : Place → Prop) (outcome : Except Failure String)
    (after : Tree) : Prop where
  same : SameButDirectory directory outcome (alone setup directory moment start dumps).outcome
  plain : ".." ∉ File.Path.steps directory ∨
      ((Script.makeDirectories directory).run start).1 = .ok () →
    outcome = (alone setup directory moment start dumps).outcome
  left : kept (fileOf directory moment dumps.table start) →
    ∀ migration, Writes setup directory moment start dumps migration →
      after.get? (fileOf directory moment dumps.table start) = some (.file migration.toUTF8)

end

section

variable {setup : Setup} {directory : String} {moment : Option Moment} {start tree : Tree}
  {tables : List TableDumps} {dumps : TableDumps}

theorem alone_outcome :
    (alone setup directory moment start dumps).outcome =
      match conversion setup start dumps with
      | .error failure => .error failure
      | .ok migration =>
        match ((Script.makeDirectories directory).run start).1 with
        | .error fault => .error (.makeOutputDirectory directory fault)
        | .ok () =>
          let path := migrationPath directory dumps.table moment
          ((((Script.makeDirectories directory).run start).2.answer
            (.write path migration)).1.mapError (.writeMigration path)).map fun _ => path := by
  rw [alone, run_convertInto]
  rcases conversion setup start dumps with failure | migration
  · rfl
  dsimp only
  rw [run_writeMigration]
  rcases (Script.makeDirectories directory).run start with ⟨fault | ⟨⟩, made⟩ <;> rfl

theorem alone_table : (alone setup directory moment start dumps).table = dumps.table := by
  rw [alone, run_convertInto]
  rcases conversion setup start dumps with failure | migration <;> rfl

theorem writes_iff {migration : String} :
    Writes setup directory moment start dumps migration ↔
      conversion setup start dumps = .ok migration ∧
        ((Script.makeDirectories directory).run start).1 = .ok () ∧
        (((Script.makeDirectories directory).run start).2.answer
          (.write (migrationPath directory dumps.table moment) migration)).1 = .ok () := by
  rw [Writes, alone_outcome]
  refine and_congr_right fun converted => ?_
  rw [converted]
  dsimp only
  rcases ((Script.makeDirectories directory).run start).1 with fault | ⟨⟩
  · simp
  · dsimp only
    rcases (((Script.makeDirectories directory).run start).2.answer _).1 with fault | ⟨⟩ <;>
      simp [Except.map, Except.mapError]

/-- What comes to the very same is as good as alone where alone nothing is written. -/
theorem ComesToAlone.of_eq {kept : Place → Prop} {outcome : Except Failure String} {after : Tree}
    (same : outcome = (alone setup directory moment start dumps).outcome)
    (never : ∀ migration, ¬ Writes setup directory moment start dumps migration) :
    ComesToAlone setup directory moment start dumps kept outcome after :=
  ⟨.inl same, fun _ => same, fun _ migration writes => absurd writes (never migration)⟩

theorem ComesToAlone.later {kept : Place → Prop} {outcome : Except Failure String}
    {after later : Tree} (h : ComesToAlone setup directory moment start dumps kept outcome after)
    (beside : Beside setup directory moment start tables kept after later) :
    ComesToAlone setup directory moment start dumps kept outcome later :=
  ⟨h.same, h.plain, fun given migration writes => beside.own given (h.left given migration writes)⟩

theorem Separate.of_perm {order : List TableDumps} (perm : order.Perm tables)
    (separate : Separate directory moment start tables) :
    Separate directory moment start order where
  sound := separate.sound
  proper dumps member := separate.proper dumps (perm.mem_iff.mp member)
  present dumps member := separate.present dumps (perm.mem_iff.mp member)
  apart dumps member path given other member' :=
    separate.apart dumps (perm.mem_iff.mp member) path given other (perm.mem_iff.mp member')

namespace Batching

theorem makeDirectory (batching : Batching setup directory moment start tables tree)
    {path : String} {changed : Tree} (h : tree.makeDirectory path = .ok changed)
    (within : changed.Grows ((Script.makeDirectories directory).run start).2) :
    Batching setup directory moment start tables changed := by
  have adds := Tree.addsDirectories_makeDirectory h
  refine ⟨⟨batching.grows.trans (Tree.grows_makeDirectory h), batching.sound.makeDirectory h,
    .inl within⟩, within.directory, fun {place content} there => ?_,
    fun {place content} there apart => ?_⟩
  · rcases adds place with same | ⟨-, made⟩
    · exact batching.files (same ▸ there)
    · rw [made] at there
      cases there
  · have kept := batching.kept there apart
    rcases adds place with same | ⟨none, -⟩
    · rw [same, kept]
    · rw [none] at kept
      cases kept

theorem change (batching : Batching setup directory moment start tables tree)
    (ok : ((Script.makeDirectories directory).run start).1 = .ok ())
    (leads : ∀ upper ∈ File.Path.ancestors directory, tree.Leads upper) (member : dumps ∈ tables)
    {migration : String} (writes : Writes setup directory moment start dumps migration)
    {changed : Tree}
    (h : tree.change (migrationPath directory dumps.table moment) (fun _ => migration.toUTF8) =
      .ok changed) :
    Batching setup directory moment start tables changed ∧
      changed.get? (fileOf directory moment dumps.table start) =
        some (.file migration.toUTF8) ∧
      ∀ other, other ≠ fileOf directory moment dumps.table start →
        changed.get? other = tree.get? other := by
  have grows := Tree.grows_change h
  have sound := batching.sound.change h
  -- Only the file of the table changes: each part is checked for it and for all others.
  obtain ⟨old, rfl, nonroot, -⟩ := Tree.find_change h
  rw [batching.grows.placeOf, ← fileOf] at *
  have get : ∀ other, (tree.put _ _).get? other = _ :=
    Tree.get?_put nonroot (.file migration.toUTF8)
  refine ⟨⟨⟨batching.grows.trans grows, sound,
    .inr ⟨ok, fun upper inside => grows.leads (leads upper inside)⟩⟩, fun {place} there => ?_,
    fun {place content} there => ?_, fun {place content} there apart => ?_⟩, ?_, fun other apart => ?_⟩
  · rw [get] at there
    split_ifs at there
    · cases there
    · exact batching.directories there
  · rw [get] at there
    split_ifs at there with same
    · obtain rfl : migration.toUTF8 = content := by
        injection Option.some.inj there
      exact .inr ⟨dumps, member, migration, writes, same, rfl⟩
    · exact batching.files there
  · rw [get, if_neg (apart dumps member migration writes)]
    exact batching.kept there apart
  · rw [get, if_pos rfl]
  · rw [get, if_neg apart]

/-- Once the directory is there, writing comes to what it does when it was made alone. -/
theorem answer_write (batching : Batching setup directory moment start tables tree)
    (sound : start.Sound) (ok : ((Script.makeDirectories directory).run start).1 = .ok ())
    (leads : ∀ upper ∈ File.Path.ancestors directory, tree.Leads upper)
    (proper : '/' ∉ dumps.table.toList) (migration : String) :
    (tree.answer (.write (migrationPath directory dumps.table moment) migration)).1 =
      (((Script.makeDirectories directory).run start).2.answer
        (.write (migrationPath directory dumps.table moment) migration)).1 := by
  have grown := Tree.grows_run (Script.makeDirectories directory) start
  have later := File.grows_makeDirectories (Prod.ext ok rfl) rfl batching.grows leads
  obtain ⟨walked, there⟩ := File.walk_of_leads batching.sound leads
  obtain ⟨walked', there'⟩ := File.walk_of_leads (sound.run _)
    (File.leads_makeDirectories (Prod.ext ok rfl) rfl)
  rw [grown.placeOf] at walked' there'
  rw [batching.grows.placeOf] at walked there
  exact Tree.answer_write_join (Naming.isName_fileName proper moment) walked walked' there there'
    ⟨batching.directories, later.directory⟩ migration

theorem read_eq (separate : Separate directory moment start tables)
    (batching : Batching setup directory moment start tables tree) (member : dumps ∈ tables)
    {path : String} (h : path ∈ dumps.paths) :
    tree.read path = start.read path := by
  have present := separate.present dumps member path h
  rcases found : start.find path with fault | ⟨place, content | -⟩
  · rw [Tree.status, found] at present
    cases present
  · obtain ⟨same, there⟩ := Tree.find_place found
    have kept := batching.kept there fun other member' _ _ shared =>
      separate.apart dumps member path h other member' (same ▸ shared)
    rw [Tree.read_of_find found, Tree.read_of_find (batching.grows.find found kept)]
  · obtain ⟨-, there⟩ := Tree.find_place found
    rw [Tree.read, Tree.read, found, batching.grows.find found (batching.grows.directory there)]

theorem readDump_eq (separate : Separate directory moment start tables)
    (batching : Batching setup directory moment start tables tree) (member : dumps ∈ tables)
    {dump : Option String} (h : ∀ path ∈ dump, path ∈ dumps.paths) :
    ((readDump dump).run tree).1 = ((readDump dump).run start).1 := by
  cases dump with
  | none => rfl
  | some path =>
    have same := read_eq separate batching member (h path rfl)
    have reads : ((Script.readText path).run tree).1 = ((Script.readText path).run start).1 := by
      simp only [Script.readText, Script.run, Tree.answer, same]
      rcases start.read path with fault | content
      · rfl
      · dsimp only
        rcases String.fromUTF8? content with - | text <;> rfl
    rw [readDump, Script.run_bind, Script.run_bind, reads]
    rfl

theorem conversion_eq (separate : Separate directory moment start tables) (member : dumps ∈ tables)
    {first second third : Tree} (h : Batching setup directory moment start tables first)
    (h' : Batching setup directory moment start tables second)
    (h'' : Batching setup directory moment start tables third) :
    conversionOf setup dumps ((readDump (some dumps.structureFile)).run first).1
      ((readDump dumps.keysFile).run second).1 ((readDump dumps.constraintsFile).run third).1 =
        conversion setup start dumps := by
  rw [conversion, run_convertFiles, readDump_eq separate h member, readDump_eq separate h' member,
    readDump_eq separate h'' member]
  · simp +contextual [TableDumps.paths]
  · simp +contextual [TableDumps.paths]
  · simp +contextual [TableDumps.paths]

end Batching

theorem reliable_beside (setup : Setup) (directory : String) (moment : Option Moment) (start : Tree)
    (tables : List TableDumps) (kept : Place → Prop) :
    Reliable (Beside setup directory moment start tables kept) where
  settled h := ⟨.refl _, h.batching, fun _ => id⟩
  trans first last :=
    ⟨first.grows.trans last.grows, last.batching, fun isKept there =>
      last.own isKept (first.own isKept there)⟩

theorem idle_beside {kept : Place → Prop} (tree : Tree)
    (h : Beside setup directory moment start tables kept tree tree) :
    Converts setup directory moment start tables dumps tree tree :=
  ⟨.refl _ tree, h.batching, .inr rfl⟩

theorem converts_makeDirectory {migration path : String} {changed : Tree}
    (converted : conversion setup start dumps = .ok migration)
    (batching : Batching setup directory moment start tables tree)
    (made : tree.makeDirectory path = .ok changed)
    (within : changed.Grows ((Script.makeDirectories directory).run start).2) :
    Converts setup directory moment start tables dumps tree changed := by
  refine ⟨?_, batching.makeDirectory made within, .inl ⟨migration, converted⟩⟩
  have writes := writesOnly_makeDirectory (fileOf directory moment dumps.table start) tree path
  rwa [Tree.answer_makeDirectory_of_ok made] at writes

section

variable (separate : Separate directory moment start tables) (member : dumps ∈ tables)
  (kept : Place → Prop)
include separate member

section

variable {migration : String} (converted : conversion setup start dumps = .ok migration)
include converted

/-- Writing beside others comes to what it does alone. -/
theorem safe_writeFile_beside (ok : ((Script.makeDirectories directory).run start).1 = .ok ())
    (leads : ∀ upper ∈ File.Path.ancestors directory, tree.Leads upper) :
    (writeFile (migrationPath directory dumps.table moment) migration).Safe
      (Beside setup directory moment start tables kept)
      (Converts setup directory moment start tables dumps)
      (fun outcome after =>
        outcome = (((Script.makeDirectories directory).run start).2.answer
          (.write (migrationPath directory dumps.table moment) migration)).1.mapError
            (.writeMigration (migrationPath directory dumps.table moment)) ∧
        (outcome = .ok () → kept (fileOf directory moment dumps.table start) →
          after.get? (fileOf directory moment dumps.table start) =
            some (.file migration.toUTF8))) tree := by
  have reliable := reliable_beside setup directory moment start tables kept
  refine .bind reliable fun later h => ?_
  have leads := fun upper inside => h.grows.leads (leads upper inside)
  -- Whether the file can be written does not depend on what others have done.
  have same : (later.answer (.write (migrationPath directory dumps.table moment) migration)).1 = _ :=
    h.batching.answer_write separate.sound ok leads (separate.proper dumps member) migration
  rcases written : later.change (migrationPath directory dumps.table moment)
    (fun _ => migration.toUTF8) with fault | changed
  · rw [Tree.answer_write_of_error written] at same ⊢
    refine ⟨idle_beside later (reliable.settled h), fun last after => .pure fun final after => ?_⟩
    rw [← same]
    exact ⟨rfl, by rintro ⟨⟩⟩
  · rw [Tree.answer_write_of_ok written] at same ⊢
    have writes : Writes setup directory moment start dumps migration :=
      writes_iff.mpr ⟨converted, ok, same.symm⟩
    obtain ⟨batching, own, others⟩ := h.batching.change ok leads member writes written
    refine ⟨⟨⟨Tree.grows_change written, fun apart there => ?_⟩, batching, .inl ⟨_, converted⟩⟩,
      fun last after => .pure fun final after' => ?_⟩
    · rwa [others _ apart]
    · rw [← same]
      exact ⟨rfl, fun _ given => after'.own given (after.own given own)⟩

omit separate member in
/-- If the directory cannot be made beside others, it cannot be made alone. -/
theorem comesToAlone_of_fault {fault : File.Fault} {after : Tree}
    (fails : ((Script.makeDirectories directory).run start).1 ≠ .ok ())
    (same : ".." ∉ File.Path.steps directory →
      .error fault = ((Script.makeDirectories directory).run start).1) :
    ComesToAlone setup directory moment start dumps kept
      (.error (.makeOutputDirectory directory fault)) after := by
  have lone : (alone setup directory moment start dumps).outcome = _ := alone_outcome
  rw [converted] at lone
  rcases made : ((Script.makeDirectories directory).run start).1 with fault' | ⟨⟩
  · rw [made] at lone same fails
    refine ⟨.inr ⟨fault, fault', rfl, lone⟩, fun plain => ?_, fun _ other writes => ?_⟩
    · rw [lone, Except.error.inj (same (plain.resolve_right (made ▸ fails)))]
    · cases made.symm.trans (writes_iff.mp writes).2.1
  · exact absurd made fails

/-- Making the directory and writing to it comes to what it does alone. -/
theorem safe_writeMigration_beside :
    (writeMigration directory dumps.table migration moment).Safe
      (Beside setup directory moment start tables kept)
      (Converts setup directory moment start tables dumps)
      (ComesToAlone setup directory moment start dumps kept) tree := by
  have reliable := reliable_beside setup directory moment start tables kept
  unfold writeMigration
  refine .andThen reliable (.bind reliable ((File.safe_makeDirectories separate.sound
    (Prod.ext rfl rfl) reliable idle_beside (fun h => ⟨h.grows, h.batching.toMaking⟩)
    fun h => converts_makeDirectory converted h.batching).weaken ?_))
  rintro outcome after ⟨-, ⟨succeeds, same⟩, leads⟩
  refine .pure fun later h => ?_
  rcases outcome with fault | ⟨⟩
  · exact fun later h =>
      comesToAlone_of_fault kept converted (fun made => nomatch succeeds.mpr made) same
  have ok := succeeds.mp rfl
  have lone : (alone setup directory moment start dumps).outcome = _ := alone_outcome
  rw [converted] at lone
  dsimp only at lone
  rw [ok] at lone
  refine .andThen reliable ((safe_writeFile_beside separate member kept converted ok
    fun upper inside => h.grows.leads (leads rfl upper inside)).weaken ?_)
  rintro written after ⟨rfl, own⟩
  rcases answered : (((Script.makeDirectories directory).run start).2.answer
    (.write (migrationPath directory dumps.table moment) migration)).1 with fault | ⟨⟩
  · rw [answered] at lone
    refine fun later h => .of_eq lone.symm fun other writes => ?_
    obtain ⟨same, -, wrote⟩ := writes_iff.mp writes
    obtain rfl := Except.ok.inj (converted.symm.trans same)
    cases answered.symm.trans wrote
  · rw [answered] at lone own
    refine .pure fun later h => ⟨.inl lone.symm, fun _ => lone.symm, fun given other writes => ?_⟩
    obtain rfl := Except.ok.inj (converted.symm.trans writes.1)
    exact h.own given (own rfl given)

end

/-- A table that is converted beside others comes to what it comes to alone. -/
theorem safe_convertInto_beside :
    (convertInto setup directory moment dumps).Safe
      (Beside setup directory moment start tables kept)
      (Converts setup directory moment start tables dumps)
      (fun result after => result.table = dumps.table ∧
        ComesToAlone setup directory moment start dumps kept result.outcome after) tree := by
  have reliable := reliable_beside setup directory moment start tables kept
  refine .bind reliable (.andThen reliable
    ((safe_convertFiles idle_beside reliable setup dumps).weaken ?_))
  rintro outcome after ⟨-, first, second, third, firstSettled, secondSettled, thirdSettled, rfl⟩
  rw [Batching.conversion_eq separate member firstSettled.batching secondSettled.batching
    thirdSettled.batching]
  rcases converted : conversion setup start dumps with failure | migration
  · refine fun later h => .pure fun later h => ⟨rfl, .of_eq ?_ fun migration writes => ?_⟩
    · rw [alone_outcome, converted]
    · cases converted.symm.trans writes.1
  · refine (safe_writeMigration_beside separate member kept converted).weaken fun outcome after h => ?_
    exact .pure fun later beside => ⟨rfl, h.later beside⟩

end

end

end TableMigration.Command
