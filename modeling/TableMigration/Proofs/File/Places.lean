import Mathlib.Tactic.SplitIfs
import TableMigration.File.Tree
import TableMigration.Proofs.File.Paths

/-!
# Where paths lead

There are no links in a tree, so a path that can be followed leads to the place that its steps spell
out (`walk_place`, `find_place`), whatever else is in the tree.
-/

namespace TableMigration.File

/-- The place that a step leads to. -/
def Place.next (place : Place) (name : String) : Place :=
  if name = "." then place else if name = ".." then place.dropLast else place ++ [name]

namespace Tree

/-- The place that a path spells out. -/
def placeOf (tree : Tree) (path : String) : Place :=
  (Path.steps path).foldl Place.next (tree.startOf path)

theorem startOf_join (tree : Tree) {name : String} (h : Path.IsStep name) (base : String) :
    tree.startOf (Path.join base name) = tree.startOf base := by
  rw [startOf, Path.isAbsolute_join h, startOf]

theorem placeOf_join (tree : Tree) {name : String} (h : IsName name) (base : String) :
    tree.placeOf (Path.join base name) = tree.placeOf base ++ [name] := by
  rw [placeOf, Path.steps_join h.isStep, startOf_join tree h.isStep, List.foldl_append,
    List.foldl_cons, List.foldl_nil, Place.next, if_neg h.moves.1, if_neg h.moves.2]
  rfl

/-! ### Entries -/

@[simp]
theorem get?_root (tree : Tree) : tree.get? [] = some .directory := rfl

theorem get?_of_ne_nil {tree : Tree} {place : Place} (h : place ≠ []) :
    tree.get? place = tree.entries.lookup place :=
  if_neg h

theorem lookup_cons_eq_ite (place other : Place) (entry : Entry) (entries : List (Place × Entry)) :
    ((place, entry) :: entries).lookup other =
      if other = place then some entry else entries.lookup other := by
  rw [List.lookup_cons]
  by_cases same : other = place
  · simp [same]
  · rw [beq_false_of_ne same, if_neg same]

theorem mem_of_lookup {entries : List (Place × Entry)} {place : Place} {entry : Entry}
    (h : entries.lookup place = some entry) : (place, entry) ∈ entries := by
  induction entries with
  | nil => cases h
  | cons first rest ih =>
    rw [lookup_cons_eq_ite] at h
    split_ifs at h with here
    · obtain rfl := Option.some.inj h
      rw [here]
      exact List.mem_cons_self
    · exact List.mem_cons_of_mem _ (ih h)

theorem lookup_put (entries : List (Place × Entry)) (place other : Place) (entry : Entry) :
    (Keyed.put (·.1) (place, entry) entries).lookup other =
      if other = place then some entry else entries.lookup other := by
  induction entries with
  | nil => exact lookup_cons_eq_ite place other entry []
  | cons first rest ih =>
    obtain ⟨key, value⟩ := first
    rw [Keyed.put]
    by_cases here : key = place
    · subst here
      rw [if_pos rfl, lookup_cons_eq_ite, lookup_cons_eq_ite]
      split_ifs <;> rfl
    · rw [if_neg here, lookup_cons_eq_ite, lookup_cons_eq_ite, ih]
      split_ifs with first second
      · exact absurd (first.symm.trans second) here
      · rfl
      · rfl
      · rfl

theorem get?_put {tree : Tree} {place : Place} (h : place ≠ []) (entry : Entry) (other : Place) :
    (tree.put place entry).get? other = if other = place then some entry else tree.get? other := by
  by_cases root : other = []
  · subst root
    rw [if_neg (Ne.symm h)]
    rfl
  · rw [get?_of_ne_nil root, get?_of_ne_nil root, put, lookup_put]

/-! ### Steps -/

section

variable {tree : Tree}

theorem get?_of_step {place next : Place} {name : String} (h : tree.step place name = .ok next) :
    tree.get? place = some .directory := by
  unfold step at h
  split at h
  · assumption
  · cases h

theorem step_place {place next : Place} {name : String} (h : tree.step place name = .ok next) :
    next = Place.next place name := by
  rw [step, get?_of_step h] at h
  dsimp only at h
  rw [Place.next]
  split_ifs at h with stay back long present
  · rw [if_pos stay]
    exact (Except.ok.inj h).symm
  · rw [if_neg stay, if_pos back]
    exact (Except.ok.inj h).symm
  · rw [if_neg stay, if_neg back]
    exact (Except.ok.inj h).symm

theorem walk_place {place last : Place} {names : List String}
    (h : tree.walk place names = .ok last) : last = names.foldl Place.next place := by
  induction names generalizing place with
  | nil => exact (Except.ok.inj h).symm
  | cons name names ih =>
    rw [walk] at h
    rcases first : tree.step place name with fault | next
    · rw [first] at h
      cases h
    · rw [first] at h
      rw [ih h, step_place first]
      rfl

theorem walk_append (place : Place) (before after : List String) :
    tree.walk place (before ++ after) =
      (tree.walk place before).bind fun middle => tree.walk middle after := by
  induction before generalizing place with
  | nil => rfl
  | cons name before ih =>
    rw [List.cons_append, walk, walk]
    rcases tree.step place name with fault | next
    · rfl
    · exact ih next

theorem walk_singleton (place : Place) (name : String) :
    tree.walk place [name] = tree.step place name := by
  rw [walk]
  rcases tree.step place name with fault | next <;> rfl

/-! ### Paths -/

theorem find_eq_ok_iff {path : String} {place : Place} {entry : Entry} :
    tree.find path = .ok (place, entry) ↔
      checkPath path = .ok () ∧ tree.walk (tree.startOf path) (Path.steps path) = .ok place ∧
        tree.get? place = some entry ∧ (entry ≠ .directory → Path.endsInSlash path = false) := by
  unfold find
  rcases checkPath path with fault | ⟨⟩
  · exact ⟨fun h => (by cases h), fun h => (by cases h.1)⟩
  rcases tree.walk (tree.startOf path) (Path.steps path) with fault | last
  · exact ⟨fun h => (by cases h), fun h => (by cases h.2.1)⟩
  simp only [bind, Except.bind, true_and, Except.ok.injEq]
  rcases found : tree.get? last with - | ⟨content | -⟩ <;> dsimp only
  · constructor
    · intro h
      cases h
    · rintro ⟨rfl, there, -⟩
      rw [found] at there
      cases there
  · constructor
    · intro h
      split_ifs at h with slash
      cases h
      exact ⟨rfl, found, fun _ => by simpa using slash⟩
    · rintro ⟨rfl, there, noSlash⟩
      obtain rfl := Option.some.inj (found.symm.trans there)
      rw [if_neg (by rw [noSlash nofun]; exact Bool.false_ne_true)]
  · constructor
    · intro h
      cases h
      exact ⟨rfl, found, fun other => absurd rfl other⟩
    · rintro ⟨rfl, there, -⟩
      obtain rfl := Option.some.inj (found.symm.trans there)
      rfl

/-- A path that can be followed leads to the place that it spells out. -/
theorem find_place {path : String} {place : Place} {entry : Entry}
    (h : tree.find path = .ok (place, entry)) :
    place = tree.placeOf path ∧ tree.get? place = some entry :=
  have ⟨_, walked, there, _⟩ := find_eq_ok_iff.mp h
  ⟨walk_place walked, there⟩

theorem target_eq {path name : String} (checked : checkPath path = .ok ())
    (last : (Path.steps path).getLast? = some name) :
    tree.target path =
      (tree.walk (tree.startOf path) (Path.steps path).dropLast).bind fun parent =>
        if name = "." ∨ name = ".." then (tree.step parent name).map fun _ => .directory
        else
          match tree.get? parent with
          | some .directory => .ok (.entry parent name)
          | _ => .error .notADirectory := by
  unfold target
  dsimp only
  rw [checked, last]
  rcases tree.walk (tree.startOf path) (Path.steps path).dropLast with fault | parent
  · rfl
  · simp only [bind, Except.bind]
    split_ifs
    · rcases tree.step parent name with fault | next <;> rfl
    · rfl

theorem target_of_checkPath {path : String} {fault : Fault} (h : checkPath path = .error fault) :
    tree.target path = .error fault := by
  rw [target, h]
  rfl

/-- Making a directory in terms of the way to it. -/
theorem makeDirectory_eq {path : String} (checked : checkPath path = .ok ()) :
    tree.makeDirectory path =
      match tree.walk (tree.startOf path) (Path.steps path) with
      | .ok _ => .error .alreadyExists
      | .error .notFound =>
        (tree.walk (tree.startOf path) (Path.steps path).dropLast).map fun _ =>
          tree.put (tree.placeOf path) .directory
      | .error fault => .error fault := by
  rcases last : (Path.steps path).getLast? with - | name
  · have none : Path.steps path = [] := List.getLast?_eq_none_iff.mp last
    rw [makeDirectory, target, checked, none]
    rfl
  · obtain ⟨before, shape⟩ := List.getLast?_eq_some_iff.mp last
    rw [makeDirectory, target_eq checked last, shape, List.dropLast_concat, walk_append]
    rcases walked : tree.walk (tree.startOf path) before with fault | parent
    · cases fault <;> rfl
    simp only [Except.bind, walk_singleton]
    have place : tree.placeOf path = Place.next parent name := by
      rw [placeOf, shape, List.foldl_append, ← walk_place walked]
      rfl
    rw [place]
    unfold step Place.next
    by_cases stay : name = "."
    · subst stay
      rcases tree.get? parent with - | ⟨content | -⟩ <;> rfl
    by_cases back : name = ".."
    · subst back
      rcases tree.get? parent with - | ⟨content | -⟩ <;> rfl
    rw [if_neg (not_or.mpr ⟨stay, back⟩), if_neg stay, if_neg back]
    rcases tree.get? parent with - | ⟨content | -⟩
    · rfl
    · rfl
    · dsimp only [bind, Except.bind, Except.map]
      rw [if_neg stay, if_neg back]
      split_ifs <;> rfl

theorem target_place {path : String} {parent : Place} {name : String}
    (h : tree.target path = .ok (.entry parent name)) :
    checkPath path = .ok () ∧ (Path.steps path).getLast? = some name ∧
      tree.walk (tree.startOf path) (Path.steps path).dropLast = .ok parent ∧
      tree.get? parent = some .directory ∧ name ≠ "." ∧ name ≠ ".." := by
  rcases checked : checkPath path with fault | ⟨⟩
  · rw [target_of_checkPath checked] at h
    cases h
  rcases last : (Path.steps path).getLast? with - | final
  · simp [target, checked, last, bind, Except.bind] at h
  rw [target_eq checked last] at h
  rcases walked : tree.walk (tree.startOf path) (Path.steps path).dropLast with fault | middle
  · rw [walked] at h
    cases h
  rw [walked, Except.bind] at h
  split_ifs at h with dots
  · rcases step : tree.step middle final with fault | next <;> rw [step] at h <;> cases h
  · split at h
    · cases h
      exact ⟨rfl, rfl, rfl, ‹_›, not_or.mp dots⟩
    · cases h

/-- Changing a file puts one in the place of an older one or of none. -/
theorem change_eq_ok {path : String} {edit : ByteArray → ByteArray} {changed : Tree}
    (h : tree.change path edit = .ok changed) :
    ∃ parent name old, tree.target path = .ok (.entry parent name) ∧
      Path.endsInSlash path = false ∧ name.utf8ByteSize ≤ maxNameSize ∧
      (tree.get? (parent ++ [name]) = some (.file old) ∨ tree.get? (parent ++ [name]) = none) ∧
      changed = tree.put (parent ++ [name]) (.file (edit old)) := by
  unfold change at h
  rcases aimed : tree.target path with fault | (- | ⟨parent, name⟩)
  · rw [aimed] at h
    cases h
  · rw [aimed] at h
    cases h
  simp only [aimed, bind, Except.bind] at h
  split_ifs at h with slash long
  refine ⟨parent, name, ?_⟩
  have fits := Nat.le_of_not_lt long
  have noSlash := Bool.eq_false_iff.mpr slash
  split at h
  · cases h
  · rename_i old found
    exact ⟨old, rfl, noSlash, fits, .inl found, (Except.ok.inj h).symm⟩
  · rename_i free
    exact ⟨_, rfl, noSlash, fits, .inr free, (Except.ok.inj h).symm⟩

theorem placeOf_of_target {path : String} {parent : Place} {name : String}
    (h : tree.target path = .ok (.entry parent name)) : tree.placeOf path = parent ++ [name] := by
  obtain ⟨-, last, walked, -, noDot, noDots⟩ := target_place h
  obtain ⟨before, shape⟩ := List.getLast?_eq_some_iff.mp last
  rw [shape, List.dropLast_concat] at walked
  rw [placeOf, shape, List.foldl_append, ← walk_place walked, List.foldl_cons, List.foldl_nil,
    Place.next, if_neg noDot, if_neg noDots]

end

end Tree

end TableMigration.File
