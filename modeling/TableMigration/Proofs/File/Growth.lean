import TableMigration.File.Script
import TableMigration.Proofs.File.Paths
import TableMigration.Proofs.File.Places
import TableMigration.Proofs.Keyed

/-!
# Growing trees

Whatever is asked of a tree, nothing in it goes away and no file becomes a directory
(`grows_answer`). So a path that leads somewhere goes on leading there, and one that is barred by
something other than a missing entry stays barred (`Grows.walk`, `Grows.walk_error`).
-/

namespace TableMigration.File.Tree

def kind? (tree : Tree) (place : Place) : Option Kind :=
  (tree.get? place).map Entry.kind

theorem kind?_eq_directory_iff {tree : Tree} {place : Place} :
    tree.kind? place = some .directory ↔ tree.get? place = some .directory := by
  rw [kind?]
  rcases tree.get? place with - | ⟨content | -⟩ <;> simp [Entry.kind]

theorem kind?_eq_file_iff {tree : Tree} {place : Place} :
    tree.kind? place = some .file ↔ ∃ content, tree.get? place = some (.file content) := by
  rw [kind?]
  rcases tree.get? place with - | ⟨content | -⟩ <;> simp [Entry.kind]

/-- What stands in the first tree stands in the second, though files may hold something else. -/
structure Grows (before after : Tree) : Prop where
  workingDirectory : after.workingDirectory = before.workingDirectory
  kind : ∀ {place : Place} {kind : Kind}, before.kind? place = some kind →
    after.kind? place = some kind

theorem Grows.refl (tree : Tree) : Grows tree tree := ⟨rfl, id⟩

theorem Grows.trans {before middle after : Tree} (first : Grows before middle)
    (last : Grows middle after) : Grows before after :=
  ⟨last.workingDirectory.trans first.workingDirectory, fun h => last.kind (first.kind h)⟩

section

variable {tree : Tree}

theorem grows_put {place : Place} {entry : Entry} (nonroot : place ≠ [])
    (h : ∀ kind, tree.kind? place = some kind → entry.kind = kind) :
    Grows tree (tree.put place entry) := by
  refine ⟨rfl, fun {other kind} there => ?_⟩
  rw [kind?, get?_put nonroot]
  split_ifs with same
  · rw [Option.map_some, h kind (same ▸ there)]
  · exact there

theorem makeDirectory_eq_ok {path : String} {changed : Tree}
    (h : tree.makeDirectory path = .ok changed) :
    ∃ parent name, tree.target path = .ok (.entry parent name) ∧
      name.utf8ByteSize ≤ maxNameSize ∧ tree.get? (parent ++ [name]) = none ∧
      changed = tree.put (parent ++ [name]) .directory := by
  rcases aimed : tree.target path with fault | (- | ⟨parent, name⟩)
  · rw [makeDirectory, aimed] at h
    cases h
  · rw [makeDirectory, aimed] at h
    cases h
  simp only [makeDirectory, aimed, bind, Except.bind] at h
  split_ifs at h with long present
  exact ⟨parent, name, rfl, Nat.le_of_not_lt long, by simpa using present, (Except.ok.inj h).symm⟩

theorem grows_makeDirectory {path : String} {changed : Tree}
    (h : tree.makeDirectory path = .ok changed) : Grows tree changed := by
  obtain ⟨parent, name, -, -, free, rfl⟩ := makeDirectory_eq_ok h
  refine grows_put (by simp) fun kind there => ?_
  rw [kind?, free] at there
  cases there

theorem grows_change {path : String} {edit : ByteArray → ByteArray} {changed : Tree}
    (h : tree.change path edit = .ok changed) : Grows tree changed := by
  obtain ⟨parent, name, old, -, -, -, before, rfl⟩ := change_eq_ok h
  refine grows_put (by simp) fun kind there => ?_
  rcases before with file | free
  · rw [kind?, file] at there
    exact Option.some.inj there
  · rw [kind?, free] at there
    cases there

theorem grows_keepOnFault {result : Except Fault Tree}
    (h : ∀ changed, result = .ok changed → Grows tree changed) :
    Grows tree (tree.keepOnFault result).2 := by
  cases result with
  | error fault => exact .refl tree
  | ok changed => exact h changed rfl

theorem answer_write_of_error {path text : String} {fault : Fault}
    (h : tree.change path (fun _ => text.toUTF8) = .error fault) :
    tree.answer (.write path text) = (.error fault, tree) := by
  rw [answer, h]
  rfl

theorem answer_write_of_ok {path text : String} {changed : Tree}
    (h : tree.change path (fun _ => text.toUTF8) = .ok changed) :
    tree.answer (.write path text) = (.ok (), changed) := by
  rw [answer, h]
  rfl

theorem answer_makeDirectory_of_error {path : String} {fault : Fault}
    (h : tree.makeDirectory path = .error fault) :
    tree.answer (.makeDirectory path) = (.error fault, tree) := by
  change tree.keepOnFault (tree.makeDirectory path) = _
  rw [h]
  rfl

theorem answer_makeDirectory_of_ok {path : String} {changed : Tree}
    (h : tree.makeDirectory path = .ok changed) :
    tree.answer (.makeDirectory path) = (.ok (), changed) := by
  change tree.keepOnFault (tree.makeDirectory path) = _
  rw [h]
  rfl

/-- Whatever is asked, nothing goes away. -/
theorem grows_answer (tree : Tree) (request : Request) : Grows tree (tree.answer request).2 := by
  cases request with
  | status path | read path | list path => exact .refl tree
  | write path text | append path text => exact grows_keepOnFault fun _ => grows_change
  | makeDirectory path => exact grows_keepOnFault fun _ => grows_makeDirectory

end

/-! ### Following paths in a grown tree -/


namespace Grows

variable {before after : Tree} (grows : Grows before after)
include grows

theorem directory {place : Place} (h : before.get? place = some .directory) :
    after.get? place = some .directory :=
  kind?_eq_directory_iff.mp (grows.kind (kind?_eq_directory_iff.mpr h))

theorem isSome {place : Place} (h : (before.get? place).isSome = true) :
    (after.get? place).isSome = true := by
  obtain ⟨entry, there⟩ := Option.isSome_iff_exists.mp h
  have stays : after.kind? place = some entry.kind := grows.kind (by rw [kind?, there]; rfl)
  rw [kind?, Option.map_eq_some_iff] at stays
  obtain ⟨entry, there, -⟩ := stays
  rw [there]
  rfl

theorem startOf (path : String) : after.startOf path = before.startOf path := by
  rw [Tree.startOf, Tree.startOf, grows.workingDirectory]

theorem placeOf (path : String) : after.placeOf path = before.placeOf path := by
  rw [Tree.placeOf, Tree.placeOf, grows.startOf]

theorem step {place next : Place} {name : String} (h : before.step place name = .ok next) :
    after.step place name = .ok next := by
  have there := get?_of_step h
  unfold Tree.step at h ⊢
  rw [there] at h
  rw [grows.directory there]
  dsimp only at h ⊢
  split_ifs at h with stay back long present
  · rwa [if_pos stay]
  · rwa [if_neg stay, if_pos back]
  · rwa [if_neg stay, if_neg back, if_neg long, if_pos (grows.isSome present)]

theorem walk {place last : Place} {names : List String}
    (h : before.walk place names = .ok last) : after.walk place names = .ok last := by
  induction names generalizing place with
  | nil => exact h
  | cons name names ih =>
    rw [Tree.walk] at h ⊢
    rcases first : before.step place name with fault | next
    · rw [first] at h
      cases h
    · rw [first] at h
      rw [grows.step first]
      exact ih h

/-- A path goes on leading to the same place, whatever a file there holds by then. -/
theorem find {path : String} {place : Place} {old new : Entry}
    (h : before.find path = .ok (place, old)) (there : after.get? place = some new) :
    after.find path = .ok (place, new) := by
  obtain ⟨checked, walked, found, slash⟩ := find_eq_ok_iff.mp h
  refine find_eq_ok_iff.mpr ⟨checked, ?_, there, fun file => slash ?_⟩
  · rw [grows.startOf]
    exact grows.walk walked
  · rintro rfl
    exact file (Option.some.inj (there.symm.trans (grows.directory found)))

end Grows

theorem Grows.walk_of_target {before after : Tree} (grows : Grows before after) {path : String}
    {parent : Place} {name : String} (aimed : before.target path = .ok (.entry parent name))
    (fits : name.utf8ByteSize ≤ maxNameSize) :
    after.walk (after.startOf path) (Path.steps path) =
      if (after.get? (parent ++ [name])).isSome then .ok (parent ++ [name])
      else .error .notFound := by
  obtain ⟨-, last, walked, there, noDot, noDots⟩ := target_place aimed
  obtain ⟨steps, shape⟩ := List.getLast?_eq_some_iff.mp last
  rw [shape, List.dropLast_concat] at walked
  rw [shape, walk_append, grows.startOf, grows.walk walked, Except.bind, walk_singleton, Tree.step,
    grows.directory there]
  dsimp only
  rw [if_neg noDot, if_neg noDots, if_neg (Nat.not_lt.mpr fits)]

theorem find_change {tree changed : Tree} {path : String} {edit : ByteArray → ByteArray}
    (h : tree.change path edit = .ok changed) :
    ∃ old, changed = tree.put (tree.placeOf path) (.file (edit old)) ∧ tree.placeOf path ≠ [] ∧
      changed.find path = .ok (tree.placeOf path, .file (edit old)) := by
  have grows := grows_change h
  obtain ⟨parent, name, old, aimed, noSlash, fits, -, rfl⟩ := change_eq_ok h
  have nonroot : parent ++ [name] ≠ [] := by simp
  have there : (tree.put (parent ++ [name]) (.file (edit old))).get? (parent ++ [name]) =
      some (.file (edit old)) := by
    rw [get?_put nonroot, if_pos rfl]
  rw [placeOf_of_target aimed]
  refine ⟨old, rfl, nonroot, find_eq_ok_iff.mpr ⟨(target_place aimed).1, ?_, there, fun _ => noSlash⟩⟩
  rw [grows.walk_of_target aimed fits, there]
  rfl

theorem change_join {tree : Tree} {base name : String} {place : Place} (h : IsName name)
    (walked : tree.walk (tree.startOf base) (Path.steps base) = .ok place)
    (there : tree.get? place = some .directory) (edit : ByteArray → ByteArray) :
    tree.change (Path.join base name) edit =
      (checkPath (Path.join base name)).bind fun _ =>
        if maxNameSize < name.utf8ByteSize then .error .nameTooLong
        else
          match tree.get? (place ++ [name]) with
          | some .directory => .error .isADirectory
          | some (.file content) => .ok (tree.put (place ++ [name]) (.file (edit content)))
          | none => .ok (tree.put (place ++ [name]) (.file (edit ByteArray.empty))) := by
  rcases checked : checkPath (Path.join base name) with fault | ⟨⟩
  · rw [change, target_of_checkPath checked]
    rfl
  have last : (Path.steps (Path.join base name)).getLast? = some name := by
    rw [Path.steps_join h.isStep, List.getLast?_concat]
  have aimed : tree.target (Path.join base name) = .ok (.entry place name) := by
    rw [target_eq checked last, Path.steps_join h.isStep, List.dropLast_concat,
      startOf_join tree h.isStep, walked, Except.bind, if_neg (not_or.mpr h.moves), there]
  have noSlash := Path.endsInSlash_join h.isStep base
  by_cases long : maxNameSize < name.utf8ByteSize
  · simp [change, aimed, bind, Except.bind, noSlash, long]
  · rcases old : tree.get? (place ++ [name]) with - | ⟨content | -⟩ <;>
      simp [change, aimed, bind, Except.bind, noSlash, long, old]

/-- Whether a file in a directory can be written shows in what directories there are. -/
theorem answer_write_join {tree other : Tree} {base name : String} {place : Place} (h : IsName name)
    (walked : tree.walk (tree.startOf base) (Path.steps base) = .ok place)
    (walked' : other.walk (other.startOf base) (Path.steps base) = .ok place)
    (there : tree.get? place = some .directory) (there' : other.get? place = some .directory)
    (same : tree.get? (place ++ [name]) = some .directory ↔
      other.get? (place ++ [name]) = some .directory) (text : String) :
    (tree.answer (.write (Path.join base name) text)).1 =
      (other.answer (.write (Path.join base name) text)).1 := by
  change (tree.keepOnFault (tree.change _ _)).1 = (other.keepOnFault (other.change _ _)).1
  rw [change_join h walked there, change_join h walked' there']
  -- Both answers depend on the name, and on whether it is one of a directory.
  rcases checkPath (Path.join base name) with fault | ⟨⟩
  · rfl
  dsimp only [Except.bind]
  split_ifs
  · rfl
  · rcases first : tree.get? (place ++ [name]) with - | ⟨content | -⟩ <;>
      rcases second : other.get? (place ++ [name]) with - | ⟨content' | -⟩ <;>
        first | rfl | simp [first, second] at same

theorem read_of_find {tree : Tree} {path : String} {place : Place} {content : ByteArray}
    (h : tree.find path = .ok (place, .file content)) : tree.read path = .ok content := by
  rw [read, h]
  rfl

theorem fromUTF8?_toUTF8 (s : String) : String.fromUTF8? s.toUTF8 = some s :=
  dif_pos s.isValidUTF8

theorem keepOnFault_eq_ok {tree changed : Tree} {result : Except Fault Tree}
    (h : tree.keepOnFault result = (.ok (), changed)) : result = .ok changed := by
  cases result with
  | error fault => cases (Prod.mk.inj h).1
  | ok other => rw [(Prod.mk.inj h).2]

theorem readText_of_write {tree changed : Tree} {path text : String}
    (h : (Script.writeText path text).run tree = (.ok (), changed)) :
    (Script.readText path).run changed = (.ok text, changed) := by
  have written : tree.change path (fun _ => text.toUTF8) = .ok changed := keepOnFault_eq_ok h
  obtain ⟨-, -, -, found⟩ := find_change written
  simp only [Script.readText, Script.run, answer, read_of_find found, fromUTF8?_toUTF8]

/-! ### Sound trees -/

/-- A tree as a file system holds one: entries with proper names, each in a directory and in a place
of its own. -/
structure Sound (tree : Tree) : Prop where
  name : ∀ {place : Place} {name : String}, (tree.get? (place ++ [name])).isSome = true → IsName name
  parent : ∀ {place : Place} {name : String}, (tree.get? (place ++ [name])).isSome = true →
    tree.get? place = some .directory
  distinct : (tree.entries.map (·.1)).Nodup
  workingDirectory : tree.get? tree.workingDirectory = some .directory

/-- Whether a tree is sound can be seen from its entries. -/
theorem Sound.of_entries {tree : Tree}
    (placed : ∀ item ∈ tree.entries, ∀ name ∈ item.1.getLast?,
      IsName name ∧ tree.kind? item.1.dropLast = some .directory)
    (distinct : (tree.entries.map (·.1)).Nodup)
    (workingDirectory : tree.kind? tree.workingDirectory = some .directory) : tree.Sound := by
  have inside : ∀ {place name}, (tree.get? (place ++ [name])).isSome = true →
      IsName name ∧ tree.kind? place = some .directory := by
    intro place name present
    obtain ⟨entry, there⟩ := Option.isSome_iff_exists.mp present
    rw [get?_of_ne_nil (by simp)] at there
    have := placed _ (mem_of_lookup there) name (by simp)
    rwa [List.dropLast_concat] at this
  exact ⟨fun present => (inside present).1,
    fun present => kind?_eq_directory_iff.mp (inside present).2, distinct,
    kind?_eq_directory_iff.mp workingDirectory⟩

namespace Sound

theorem put {tree : Tree} (sound : tree.Sound) {path : String} {parent : Place} {name : String}
    {entry : Entry} (aimed : tree.target path = .ok (.entry parent name))
    (grows : Grows tree (tree.put (parent ++ [name]) entry)) :
    (tree.put (parent ++ [name]) entry).Sound := by
  have nonroot : parent ++ [name] ≠ [] := by simp
  obtain ⟨-, last, -, there, moves⟩ := target_place aimed
  have proper : IsName name :=
    have ⟨nonempty, noSlash⟩ := Path.isStep_of_mem_steps (List.mem_of_getLast? last)
    ⟨nonempty, noSlash, moves⟩
  refine ⟨fun {place other} present => ?_, fun {place other} present => ?_, ?_, ?_⟩
  · rw [get?_put nonroot] at present
    split_ifs at present with same
    · obtain rfl := List.singleton_inj.mp (List.append_inj' same rfl).2
      exact proper
    · exact sound.name present
  · rw [get?_put nonroot] at present
    split_ifs at present with same
    · obtain rfl := (List.append_inj' same rfl).1
      exact grows.directory there
    · exact grows.directory (sound.parent present)
  · exact Keyed.nodup_put (fun item : Place × Entry => item.1) _ sound.distinct
  · exact grows.directory sound.workingDirectory

theorem keepOnFault {tree : Tree} (sound : tree.Sound) {result : Except Fault Tree}
    (h : ∀ changed, result = .ok changed → changed.Sound) : (tree.keepOnFault result).2.Sound := by
  cases result with
  | error fault => exact sound
  | ok changed => exact h changed rfl

theorem change {tree changed : Tree} (sound : tree.Sound) {path : String}
    {edit : ByteArray → ByteArray} (h : tree.change path edit = .ok changed) : changed.Sound := by
  have grows := grows_change h
  obtain ⟨parent, name, old, aimed, -, -, -, rfl⟩ := change_eq_ok h
  exact sound.put aimed grows

theorem makeDirectory {tree changed : Tree} (sound : tree.Sound) {path : String}
    (h : tree.makeDirectory path = .ok changed) : changed.Sound := by
  have grows := grows_makeDirectory h
  obtain ⟨parent, name, aimed, -, -, rfl⟩ := makeDirectory_eq_ok h
  exact sound.put aimed grows

theorem answer {tree : Tree} (sound : tree.Sound) (request : Request) :
    (tree.answer request).2.Sound := by
  cases request with
  | status path | read path | list path => exact sound
  | write path text | append path text => exact sound.keepOnFault fun _ => sound.change
  | makeDirectory path => exact sound.keepOnFault fun _ => sound.makeDirectory

theorem dropLast {tree : Tree} (sound : tree.Sound) {place : Place}
    (h : (tree.get? place).isSome = true) : tree.get? place.dropLast = some .directory := by
  rcases List.eq_nil_or_concat place with rfl | ⟨parent, name, rfl⟩
  · rfl
  · rw [List.concat_eq_append] at h ⊢
    rw [List.dropLast_concat]
    exact sound.parent h

theorem isSome_of_step {tree : Tree} (sound : tree.Sound) {place next : Place} {name : String}
    (h : tree.step place name = .ok next) : (tree.get? next).isSome = true := by
  have there := get?_of_step h
  unfold step at h
  rw [there] at h
  dsimp only at h
  split_ifs at h with stay back long present
  · obtain rfl := Except.ok.inj h
    rw [there]
    rfl
  · obtain rfl := Except.ok.inj h
    rw [sound.dropLast (by rw [there]; rfl)]
    rfl
  · obtain rfl := Except.ok.inj h
    exact present

end Sound

/-- Nor does anything go away in the course of a script. -/
theorem grows_run {α : Type} (script : Script α) (tree : Tree) : Grows tree (script.run tree).2 := by
  induction script generalizing tree with
  | done result => exact .refl tree
  | ask request next ih => exact (grows_answer tree request).trans (ih _ _)

theorem Sound.run {α : Type} {tree : Tree} (sound : tree.Sound) (script : Script α) :
    (script.run tree).2.Sound := by
  induction script generalizing tree with
  | done result => exact sound
  | ask request next ih => exact ih _ (sound.answer request)

namespace Grows

variable {before after : Tree} (grows : Grows before after) (sound : before.Sound)
include grows

theorem step_error {place : Place} {name : String} {fault : Fault}
    (there : (before.get? place).isSome = true) (h : before.step place name = .error fault)
    (other : fault ≠ .notFound) : after.step place name = .error fault := by
  unfold Tree.step at h ⊢
  split at h
  · rename_i directory
    rw [grows.directory directory]
    dsimp only
    split_ifs at h with stay back long present
    · rwa [if_neg stay, if_neg back, if_pos long]
    · exact absurd (Except.error.inj h).symm other
  · rename_i file
    obtain ⟨entry, found⟩ := Option.isSome_iff_exists.mp there
    rcases entry with content | -
    · obtain ⟨content, found⟩ := kind?_eq_file_iff.mp
        (grows.kind (kind?_eq_file_iff.mpr ⟨content, found⟩))
      rw [found]
      exact h
    · exact absurd found file

theorem walk_error {place : Place} {names : List String} {fault : Fault}
    (sound : before.Sound) (there : (before.get? place).isSome = true)
    (h : before.walk place names = .error fault)
    (other : fault ≠ .notFound) : after.walk place names = .error fault := by
  induction names generalizing place with
  | nil => cases h
  | cons name names ih =>
    rw [Tree.walk] at h ⊢
    rcases first : before.step place name with fault' | next
    · rw [first] at h
      obtain rfl := Except.error.inj h
      rw [grows.step_error there first other]
      rfl
    · rw [first] at h
      rw [grows.step first]
      exact ih (sound.isSome_of_step first) h

end Grows

end TableMigration.File.Tree
