import TableMigration.Command.Batch
import TableMigration.Proofs.File.Interleaving

/-!
# Converting a table beside others

What a conversion comes to while others change the tree between its requests: it converts what its
dumps held when it read them (`safe_convertFiles`).
-/

namespace TableMigration.File.Script

/-- Reading a text is a single request. -/
theorem exists_readText_eq (path : String) :
    ∃ next, readText path = .ask (.read path) next ∧
      ∀ answer, ∃ outcome, next answer = .done outcome := by
  refine ⟨_, rfl, ?_⟩
  rintro (fault | content)
  · exact ⟨_, rfl⟩
  · dsimp only
    split <;> exact ⟨_, rfl⟩

namespace Safe

variable {α β ε : Type} {R G : Tree → Tree → Prop} {P : Except ε β → Tree → Prop} {tree : Tree}

/-- A single request that changes nothing is answered by the tree of some moment. -/
theorem once (idle : ∀ tree, R tree tree → G tree tree) (reliable : Reliable R) {request : Request}
    {next : request.Answer → Script α} (reads : ∀ tree : Tree, (tree.answer request).2 = tree)
    (ends : ∀ answer, ∃ outcome, next answer = .done outcome) :
    Script.Safe R G
      (fun outcome after => R after after ∧
        ∃ moment, R moment moment ∧ outcome = ((Script.ask request next).run moment).1)
      (.ask request next) tree := by
  intro later h
  have settled := reliable.settled h
  obtain ⟨outcome, isDone⟩ := ends (later.answer request).1
  rw [reads later, isDone]
  refine ⟨idle later settled, fun last after => ⟨reliable.settled after, later, settled, ?_⟩⟩
  change outcome = ((next (later.answer request).1).run (later.answer request).2).1
  rw [isDone]
  rfl

/-- A script that may fail goes on safely, if it is safe until then and failing is no harm. -/
theorem andThen (reliable : Reliable R) {script : Script (Except ε α)}
    {f : α → Script (Except ε β)}
    (safe : script.Safe R G (fun outcome tree =>
      match outcome with
      | .ok result => (f result).Safe R G P tree
      | .error fault => ∀ later, R tree later → P (.error fault) later) tree) :
    Script.Safe R G P (ExceptT.run (ExceptT.mk script >>= fun result => ExceptT.mk (f result)))
      tree := by
  refine bind reliable (safe.weaken fun outcome tree next => ?_)
  cases outcome with
  | ok result => exact next
  | error fault => exact next

end Safe

end TableMigration.File.Script

namespace TableMigration.Command

open File (Script Tree Reliable)

variable {R G : Tree → Tree → Prop} {tree : Tree}

theorem safe_readText (idle : ∀ tree, R tree tree → G tree tree) (reliable : Reliable R)
    (path : String) :
    (Script.readText path).Safe R G
      (fun outcome after => R after after ∧
        ∃ moment, R moment moment ∧ outcome = ((Script.readText path).run moment).1) tree := by
  obtain ⟨next, same, ends⟩ := Script.exists_readText_eq path
  rw [same]
  exact .once idle reliable (fun _ => rfl) ends

theorem safe_readDump (idle : ∀ tree, R tree tree → G tree tree) (reliable : Reliable R)
    (dump : Option String) :
    (readDump dump).Safe R G
      (fun outcome after => R after after ∧
        ∃ moment, R moment moment ∧ outcome = ((readDump dump).run moment).1) tree := by
  cases dump with
  | none => exact .pure fun later h => ⟨reliable.settled h, later, reliable.settled h, rfl⟩
  | some path =>
    refine .bind reliable ((safe_readText idle reliable path).weaken ?_)
    rintro outcome after ⟨settled, moment, momentSettled, rfl⟩
    refine .pure fun later h => ⟨reliable.settled h, moment, momentSettled, ?_⟩
    rw [readDump, Script.run_bind]
    rfl

/-- What a conversion comes to if its dumps read like this. -/
def conversionOf (setup : Setup) (dumps : TableDumps)
    (columns indexes foreignKeys : Except Failure String) : Except Failure String := do
  let columns ← columns
  let indexes ← indexes
  let foreignKeys ← foreignKeys
  (migrationOf dumps.table columns indexes foreignKeys setup.template
    setup.config.output.indent).mapError (.conversion dumps.table)

theorem safe_convertFiles (idle : ∀ tree, R tree tree → G tree tree) (reliable : Reliable R)
    (setup : Setup) (dumps : TableDumps) :
    (convertFiles setup dumps).Safe R G
      (fun outcome after => R after after ∧
        ∃ first second third, R first first ∧ R second second ∧ R third third ∧
          outcome = conversionOf setup dumps ((readDump (some dumps.structureFile)).run first).1
            ((readDump dumps.keysFile).run second).1
            ((readDump dumps.constraintsFile).run third).1) tree := by
  unfold convertFiles
  refine .andThen reliable ((safe_readDump idle reliable _).weaken ?_)
  rintro outcome after ⟨settled, first, firstSettled, rfl⟩
  rcases firstRead : ((readDump (some dumps.structureFile)).run first).1 with fault | columns
  · refine fun later h => ⟨reliable.settled h, first, first, first, firstSettled, firstSettled,
      firstSettled, ?_⟩
    rw [firstRead]
    rfl
  refine .andThen reliable ((safe_readDump idle reliable _).weaken ?_)
  rintro outcome after ⟨settled, second, secondSettled, rfl⟩
  rcases secondRead : ((readDump dumps.keysFile).run second).1 with fault | indexes
  · refine fun later h => ⟨reliable.settled h, first, second, second, firstSettled, secondSettled,
      secondSettled, ?_⟩
    rw [firstRead, secondRead]
    rfl
  refine .andThen reliable ((safe_readDump idle reliable _).weaken ?_)
  rintro outcome after ⟨settled, third, thirdSettled, rfl⟩
  rcases thirdRead : ((readDump dumps.constraintsFile).run third).1 with fault | foreignKeys
  · refine fun later h => ⟨reliable.settled h, first, second, third, firstSettled, secondSettled,
      thirdSettled, ?_⟩
    rw [firstRead, secondRead, thirdRead]
    rfl
  · refine .pure fun later h => ⟨reliable.settled h, first, second, third, firstSettled,
      secondSettled, thirdSettled, ?_⟩
    rw [firstRead, secondRead, thirdRead]
    rfl

end TableMigration.Command
