import TableMigration.Proofs.File.Directories

/-!
# Making directories beside others

Making a directory with those above it comes to the same whether others are at it too or not
(`safe_makeDirectories`); only if the path goes back may it fail for another reason.
-/

namespace TableMigration.File

namespace Tree

variable {tree : Tree} {path : String}

theorem refused_unique {fault other : Fault} (h : tree.Refused path fault)
    (h' : tree.Refused path other) : fault = other := by
  rcases h with ⟨barred, -⟩ | ⟨rfl, place, walked, -⟩ <;>
    rcases h' with ⟨barred', -⟩ | ⟨rfl, place', walked', -⟩
  · exact Except.error.inj (barred.symm.trans barred')
  · rw [barred] at walked'
    cases walked'
  · rw [barred'] at walked
    cases walked
  · rfl

theorem not_cut_of_refused {fault : Fault} (h : tree.Refused path fault) : ¬ tree.Cut path := by
  intro cut
  rcases h with ⟨barred, other⟩ | ⟨-, place, walked, -⟩
  · exact other (Except.error.inj (barred.symm.trans (walk_of_cut cut)))
  · rw [walk_of_cut cut] at walked
    cases walked

/-- A directory on the way that is missing later was missing before. -/
theorem Attempt.cut_of_grows {answer result : Except Fault Unit} {after later : Tree}
    (h : Attempt tree path answer result after) (sound : tree.Sound) (grows : tree.Grows later)
    (cut : later.Cut path) : tree.Cut path ∧ result = .error .notFound := by
  cases h with
  | leads leads => exact absurd (grows.leads leads) (not_leads_of_missing (walk_of_cut cut))
  | refused refused => exact absurd cut (not_cut_of_refused (grows.refused sound refused))
  | free free =>
    obtain ⟨-, parent, walked⟩ := free
    rw [Cut, grows.ready walked] at cut
    cases cut
  | cut before => exact ⟨before, rfl⟩

theorem Attempt.grows {answer result : Except Fault Unit} {after : Tree}
    (h : Attempt tree path answer result after) (checked : checkPath path = .ok ()) :
    tree.Grows after := by
  rcases h.eq_or_makeDirectory checked with rfl | ⟨-, made⟩
  · exact .refl _
  · exact grows_makeDirectory made

theorem answer_ne_notFound (checked : checkPath path = .ok ()) (ready : ¬ tree.Cut path) :
    (tree.answer (.makeDirectory path)).1 ≠ .error .notFound := by
  intro missing
  obtain ⟨came, attempt⟩ := tree.attempt checked
  rw [missing] at attempt
  exact ready (cut_of_attempt attempt)

/-- A directory that could be made is there later, or can be made still, if later only directories
were added. -/
theorem leads_or_free {start later : Tree} (checked : checkPath path = .ok ())
    (free : tree.Free path) (before : start.Grows tree) (grows : tree.Grows later)
    (adds : AddsDirectories start later) : later.Leads path ∨ later.Free path := by
  obtain ⟨parent, name, aimed, fits, none, -⟩ :=
    makeDirectory_eq_ok (makeDirectory_of_free checked free)
  obtain ⟨-, upper, walked⟩ := free
  have way := grows.walk_of_target aimed fits
  have early : start.get? (parent ++ [name]) = .none := by
    rw [← Option.not_isSome_iff_eq_none]
    intro present
    have there := before.isSome present
    rw [none] at there
    cases there
  -- Its place was empty at the start, so by now it is empty still or a directory.
  rcases adds (parent ++ [name]) with same | ⟨-, there⟩
  · rw [same, early] at way
    exact .inr ⟨way, upper, grows.ready walked⟩
  · rw [there] at way
    exact .inl (leads_iff.mpr ⟨checked, _, way, there⟩)

end Tree

open File.Tree

/-- A tree in which some may be making directories, which alone comes to `outcome` and leaves the
tree `final`. -/
structure Making (start final : Tree) (outcome : Except Fault Unit) (paths : List String)
    (tree : Tree) : Prop where
  grows : start.Grows tree
  sound : tree.Sound
  within : tree.Grows final ∨ outcome = .ok () ∧ ∀ path ∈ paths, tree.Leads path

/-- What making a directory comes to is what the final tree says. -/
structure Decided (final : Tree) (path : String) (plain : Prop) (result : Except Fault Unit) :
    Prop where
  leads : result = .ok () → final.Leads path
  stopped : ∀ fault, result = .error fault → (¬ final.Leads path ∧ ¬ final.Free path) ∧
    (plain → final.Refused path fault ∨ fault = .notFound ∧ final.Cut path)

section

variable {start final tree after : Tree} {outcome answer result : Except Fault Unit}
  {path : String} {whole : List String} {plain : Prop}

theorem Decided.not_leads (decided : Decided final path plain result)
    (goes : outcome = .ok () → result = .ok ()) (making : Making start final outcome whole tree)
    {fault : Fault} (error : result = .error fault) : ¬ tree.Leads path := by
  rcases making.within with within | ⟨ok, -⟩
  · exact fun leads => (decided.stopped fault error).1.1 (within.leads leads)
  · rw [goes ok] at error
    cases error

/-- An attempt beside others comes to what the final tree says, if the way to the directory is
there. -/
theorem Decided.attempt (decided : Decided final path plain result)
    (goes : outcome = .ok () → result = .ok ()) (making : Making start final outcome whole tree)
    (adds : AddsDirectories start final) (checked : checkPath path = .ok ())
    (inside : path ∈ whole) {came : Except Fault Unit}
    (h : Attempt tree path answer came after) (ready : ¬ tree.Cut path) :
    ((came = .ok () ↔ result = .ok ()) ∧ (plain → came = result)) ∧
      (after = tree ∨ tree.makeDirectory path = .ok after ∧ after.Grows final) := by
  -- Either others are still on the way to the final tree, or the directory is there.
  rcases making.within with within | ⟨ok, top⟩
  · cases h with
    | leads leads =>
      rcases result with fault | ⟨⟩
      · exact absurd (within.leads leads) (decided.stopped fault rfl).1.1
      · exact ⟨⟨.rfl, fun _ => rfl⟩, .inl rfl⟩
    | @refused fault refused =>
      have later := within.refused making.sound refused
      rcases result with other | ⟨⟩
      · refine ⟨⟨by simp, fun given => ?_⟩, .inl rfl⟩
        rcases (decided.stopped other rfl).2 given with refused' | ⟨-, cut⟩
        · rw [refused_unique later refused']
        · exact absurd cut (not_cut_of_refused later)
      · exact absurd (decided.leads rfl) (not_leads_of_refused later)
    | free free =>
      have made := makeDirectory_of_free checked free
      have later := leads_or_free checked free making.grows within adds
      rcases result with fault | ⟨⟩
      · obtain ⟨noLeads, noFree⟩ := (decided.stopped fault rfl).1
        exact absurd later (not_or.mpr ⟨noLeads, noFree⟩)
      · have leads := decided.leads rfl
        refine ⟨⟨.rfl, fun _ => rfl⟩, .inr ⟨made, ?_⟩⟩
        exact (Attempt.free free).grows_later checked within fun _ => leads
    | cut cut => exact absurd cut ready
  · have leads := top path inside
    rw [goes ok]
    cases h with
    | leads => exact ⟨⟨.rfl, fun _ => rfl⟩, .inl rfl⟩
    | refused refused => exact absurd leads (not_leads_of_refused refused)
    | free free => exact absurd leads (not_leads_of_missing free.1)
    | cut cut => exact absurd cut ready

/-- Making the first of some directories came to what it comes to alone. Where it fails, a path that
goes back may fail for another reason. -/
structure ComesTo (paths : List String) (result came : Except Fault Unit) (after : Tree) : Prop where
  succeeds : came = .ok () ↔ result = .ok ()
  same : (∀ path ∈ paths, ".." ∉ Path.steps path) → came = result
  leads : came = .ok () → ∀ path ∈ paths.head?, after.Leads path

theorem decided_of_makeFirstOf {paths : List String} (chain : (path :: paths).IsChain Path.Above)
    (checked : ∀ other ∈ path :: paths, checkPath other = .ok ()) (sound : start.Sound) {last : Tree}
    (ran : (Script.makeFirstOf (path :: paths)).run start = (result, last))
    (within : last.Grows final) (stops : ∀ fault, result = .error fault → last = final) :
    Decided final path (∀ other ∈ path :: paths, ".." ∉ Path.steps other) result := by
  refine ⟨fun ok => within.leads (leads_makeFirstOf checked ran ok path rfl), fun fault error => ?_⟩
  obtain rfl := stops fault error
  exact ⟨not_leads_makeFirstOf chain checked ran error path rfl, fun plain =>
    stopped_makeFirstOf chain checked ran sound plain error path rfl⟩

/-! ### Beside others -/

section

variable {R G : Tree → Tree → Prop} (reliable : Reliable R)
  (idle : ∀ tree, R tree tree → G tree tree)
include reliable idle

section

variable (grows : ∀ {before after}, R before after → before.Grows after)
include grows

theorem safe_forgiveDirectory_error {fault : Fault} {came : Except Fault Unit}
    (decides : ∀ later, R after later →
      later.Leads path ∧ came = .ok () ∨ ¬ later.Leads path ∧ came = .error fault) :
    (Script.forgiveDirectory path (.error fault)).Safe R G
      (fun result last => R last last ∧ result = came ∧ (came = .ok () → last.Leads path)) after := by
  refine .bind reliable (.bind reliable fun asked h => ⟨idle asked (reliable.settled h), ?_⟩)
  refine fun next h₁ => .pure fun next' h₂ => ?_
  have onwards := reliable.trans h₁ h₂
  rcases decides asked h with ⟨leads, rfl⟩ | ⟨none, rfl⟩
  · have same : ((asked.answer (.status path)).1 == some .directory) = true :=
      beq_iff_eq.mpr leads
    rw [if_pos same]
    exact .pure fun last h₃ => ⟨reliable.settled h₃, rfl, fun _ =>
      (grows (reliable.trans onwards h₃)).leads leads⟩
  · have other : ¬ ((asked.answer (.status path)).1 == some .directory) = true :=
      fun same => none (eq_of_beq same)
    rw [if_neg other]
    exact .pure fun last h₃ => ⟨reliable.settled h₃, rfl, by rintro ⟨⟩⟩

/-- A path that cannot be followed at all leads to no directory. -/
theorem safe_makeDirectories_of_unchecked {fault : Fault} (nonempty : path ≠ "")
    (h : checkPath path = .error fault) :
    (Script.makeDirectories path).Safe R G
      (fun came after => R after after ∧ came = .error fault) tree := by
  have answered : ∀ tree : Tree, tree.answer (.makeDirectory path) = (.error fault, tree) := by
    intro tree
    refine answer_makeDirectory_of_error ?_
    rw [makeDirectory, target_of_checkPath h]
    rfl
  have given : fault ≠ .notFound := by
    rintro rfl
    unfold checkPath at h
    split_ifs at h <;> cases h
  have never : ∀ tree : Tree, ¬ tree.Leads path := fun tree leads => by
    rw [(leads_iff.mp leads).1] at h
    cases h
  rw [Script.makeDirectories, Path.ancestors, if_neg (by simpa using nonempty), Script.makeFirstOf]
  refine .bind reliable fun later h => ?_
  rw [answered]
  refine ⟨idle later (reliable.settled h), fun next h' => ?_⟩
  dsimp only
  split
  · exact absurd (Except.error.inj ‹_›) given
  · refine (safe_forgiveDirectory_error reliable idle grows fun later _ =>
      .inr ⟨never later, rfl⟩).weaken ?_
    rintro came after ⟨settled, rfl, -⟩
    exact ⟨settled, rfl⟩

end

variable (moment : ∀ {before after}, R before after →
    before.Grows after ∧ Making start final outcome whole after)
include moment

theorem safe_forgiveDirectory {came : Except Fault Unit} (h : Attempt tree path answer came after)
    (sound : tree.Sound) (checked : checkPath path = .ok ())
    (never : tree.Cut path → ∀ later, R after later → ¬ later.Leads path) :
    (Script.forgiveDirectory path answer).Safe R G
      (fun result last => R last last ∧ result = came ∧ (came = .ok () → last.Leads path)) after := by
  have grows := fun {before after} (h : R before after) => (moment h).1
  cases h with
  | leads leads =>
    exact safe_forgiveDirectory_error reliable idle grows fun later h =>
      .inl ⟨(moment h).1.leads leads, rfl⟩
  | refused refused =>
    exact safe_forgiveDirectory_error reliable idle grows fun later h =>
      .inr ⟨not_leads_of_refused ((moment h).1.refused sound refused), rfl⟩
  | free free =>
    refine .pure fun later h => ⟨reliable.settled h, rfl, fun _ => ?_⟩
    exact (moment h).1.leads (leads_of_makeDirectory (makeDirectory_of_free checked free))
  | cut cut =>
    exact safe_forgiveDirectory_error reliable idle grows fun later h =>
      .inr ⟨never cut later h, rfl⟩

variable (makes : ∀ {tree changed path}, R tree tree → tree.makeDirectory path = .ok changed →
    changed.Grows final → G tree changed)
  (adds : AddsDirectories start final)
include makes adds

section

variable {paths : List String} (checked : ∀ other ∈ path :: paths, checkPath other = .ok ())
  (inside : path ∈ whole) (goes : outcome = .ok () → result = .ok ())
include checked inside goes

/-- An attempt for which the way is there is the last. -/
theorem safe_attempt
    (decided : Decided final path (∀ other ∈ path :: paths, ".." ∉ Path.steps other) result)
    (settled : R tree tree) (ready : ¬ tree.Cut path) :
    G tree (tree.answer (.makeDirectory path)).2 ∧
      (Script.forgiveDirectory path (tree.answer (.makeDirectory path)).1).Safe R G
        (fun came after => R after after ∧ ComesTo (path :: paths) result came after)
        (tree.answer (.makeDirectory path)).2 := by
  have first := checked path List.mem_cons_self
  have making := (moment settled).2
  obtain ⟨came, attempt⟩ := Tree.attempt tree first
  obtain ⟨⟨succeeds, same⟩, changes⟩ := decided.attempt goes making adds first inside attempt ready
  constructor
  · rcases changes with unchanged | ⟨made, grows⟩
    · rw [unchanged]
      exact idle tree settled
    · exact makes settled made grows
  · refine (safe_forgiveDirectory reliable idle moment attempt making.sound first
      fun cut => absurd cut ready).weaken ?_
    rintro _ after ⟨settled, rfl, leads⟩
    refine ⟨settled, succeeds, same, ?_⟩
    intro ok other head
    obtain rfl := Option.some.inj head
    exact leads ok

/-- So is one after those above were made, even if the way is missing still: then it was missing
when it was tried alone. -/
theorem safe_secondAttempt (chain : (path :: paths).IsChain Path.Above) (sound : start.Sound)
    {middle last : Tree}
    (went : (Script.makeFirstOf paths).run start = (.ok (), middle))
    (attempt : Attempt middle path answer result last)
    (decided : Decided final path (∀ other ∈ path :: paths, ".." ∉ Path.steps other) result)
    (settled : R tree tree) (leads : ∀ other ∈ paths.head?, tree.Leads other) :
    G tree (tree.answer (.makeDirectory path)).2 ∧
      (Script.forgiveDirectory path (tree.answer (.makeDirectory path)).1).Safe R G
        (fun came after => R after after ∧ ComesTo (path :: paths) result came after)
        (tree.answer (.makeDirectory path)).2 := by
  have first := checked path List.mem_cons_self
  have upper := (List.forall_mem_cons.mp checked).2
  have making := (moment settled).2
  -- Those above are there, as they were when the path was tried alone.
  by_cases cut : tree.Cut path
  · rw [answer_of_cut first cut]
    refine ⟨idle tree settled, ?_⟩
    have above : ∀ other ∈ paths, tree.Leads other := leads_of_head chain.of_cons upper leads
    have grows := grows_makeFirstOf upper went making.grows above
    have middleSound : middle.Sound := by
      have := sound.run (Script.makeFirstOf paths)
      rwa [went] at this
    obtain ⟨-, rfl⟩ := attempt.cut_of_grows middleSound grows cut
    refine (safe_forgiveDirectory reliable idle moment (.cut cut) making.sound first
      fun _ later h => decided.not_leads goes (moment h).2 rfl).weaken ?_
    rintro came after ⟨settled, rfl, -⟩
    exact ⟨settled, .rfl, fun _ => rfl, by rintro ⟨⟩⟩
  · exact safe_attempt reliable idle moment makes adds checked inside goes decided settled cut

end

/-- Making the first of some directories comes to what it does alone. -/
theorem safe_makeFirstOf {paths : List String} (chain : paths.IsChain Path.Above)
    (checked : ∀ path ∈ paths, checkPath path = .ok ()) (sound : start.Sound)
    (inside : paths ⊆ whole) {last : Tree}
    (ran : (Script.makeFirstOf paths).run start = (result, last)) (within : last.Grows final)
    (stops : ∀ fault, result = .error fault → last = final)
    (goes : outcome = .ok () → result = .ok ()) :
    (Script.makeFirstOf paths).Safe R G
      (fun came after => R after after ∧ ComesTo paths result came after) tree := by
  induction paths generalizing result last tree with
  | nil =>
    obtain ⟨rfl, -⟩ := Prod.mk.inj ran
    exact .pure fun later h => ⟨reliable.settled h, .rfl, fun _ => rfl, by simp⟩
  | cons path paths ih =>
    have decided := decided_of_makeFirstOf chain checked sound ran within stops
    have first := checked path List.mem_cons_self
    have upper := (List.forall_mem_cons.mp checked).2
    have among := inside List.mem_cons_self
    have rest := List.subset_of_cons_subset inside
    rw [Script.makeFirstOf]
    refine .bind reliable fun later h => ?_
    have settled := reliable.settled h
    have making := (moment settled).2
    by_cases cut : later.Cut path
    · rw [answer_of_cut first cut]
      refine ⟨idle later settled, fun next h' => ?_⟩
      -- The way is missing, so it was missing at the start, too.
      rcases run_makeFirstOf_cons first ran with ⟨ready, answer, attempt⟩ |
        ⟨-, ⟨fault, stopped, rfl⟩ | ⟨middle, went, answer, attempt⟩⟩
      · exact absurd (attempt.cut_of_grows sound making.grows cut).1 ready
      · refine .bind reliable ((ih chain.of_cons upper rest stopped within stops goes).weaken ?_)
        rintro came after ⟨settled, above⟩
        rcases came with fault' | ⟨⟩
        · refine .pure fun later h => ⟨reliable.settled h, above.succeeds, fun plain => ?_,
            by rintro ⟨⟩⟩
          exact above.same (List.forall_mem_cons.mp plain).2
        · cases above.succeeds.mp rfl
      · have middleGrows : middle.Grows final := (attempt.grows first).trans within
        refine .bind reliable ((ih chain.of_cons upper rest went middleGrows
          (by rintro _ ⟨⟩) fun _ => rfl).weaken ?_)
        rintro came after ⟨-, above⟩
        have ok := above.succeeds.mpr rfl
        rw [ok]
        refine .bind reliable fun later h => ?_
        obtain ⟨guaranteed, safe⟩ := safe_secondAttempt reliable idle moment makes adds checked among
          goes chain sound went attempt decided (reliable.settled h)
          fun other member => (moment h).1.leads (above.leads ok other member)
        exact ⟨guaranteed, fun next h' => safe.later reliable h'⟩
    · obtain ⟨guaranteed, safe⟩ := safe_attempt reliable idle moment makes adds checked among goes
        decided settled cut
      refine ⟨guaranteed, fun next h' => ?_⟩
      dsimp only
      split
      · exact absurd ‹_› (answer_ne_notFound first cut)
      · exact safe.later reliable h'

end

end

section

variable {start final : Tree} {outcome : Except Fault Unit} {path : String}
  (ran : (Script.makeDirectories path).run start = (outcome, final))
include ran

theorem error_of_unchecked {fault : Fault} (nonempty : path ≠ "")
    (h : checkPath path = .error fault) : outcome = .error fault := by
  have safe : (Script.makeDirectories path).Safe Grows (fun _ _ => True)
      (fun came after => Grows after after ∧ came = .error fault) start :=
    safe_makeDirectories_of_unchecked ⟨fun _ => .refl _, .trans⟩ (fun _ _ => trivial) id nonempty h
  have alone := safe.run .refl
  rw [ran] at alone
  exact alone.2

theorem checkPath_of_makeDirectories (ok : outcome = .ok ()) :
    ∀ upper ∈ Path.ancestors path, checkPath upper = .ok () := by
  rcases checked : checkPath path with fault | ⟨⟩
  · by_cases empty : path = ""
    · simp [empty, Path.ancestors]
    · rw [error_of_unchecked ran empty checked] at ok
      cases ok
  · exact fun upper => checkPath_ancestors checked

theorem leads_makeDirectories (ok : outcome = .ok ()) :
    ∀ upper ∈ Path.ancestors path, final.Leads upper :=
  have checked := checkPath_of_makeDirectories ran ok
  leads_of_head (Path.isChain_ancestors path) checked (leads_makeFirstOf checked ran ok)

theorem grows_makeDirectories (ok : outcome = .ok ()) {later : Tree} (grows : start.Grows later)
    (leads : ∀ upper ∈ Path.ancestors path, later.Leads upper) : final.Grows later :=
  grows_makeFirstOf (checkPath_of_makeDirectories ran ok) ran grows leads

end

/-- A path leads to its place if those above it lead to directories. -/
theorem walk_of_leads {tree : Tree} {path : String} (sound : tree.Sound)
    (leads : ∀ upper ∈ Path.ancestors path, tree.Leads upper) :
    tree.walk (tree.startOf path) (Path.steps path) = .ok (tree.placeOf path) ∧
      tree.get? (tree.placeOf path) = some .directory := by
  by_cases empty : path = ""
  · subst empty
    exact ⟨rfl, sound.workingDirectory⟩
  · have first : path ∈ Path.ancestors path := by
      rw [Path.ancestors, if_neg (by simpa using empty)]
      exact List.mem_cons_self
    obtain ⟨-, place, walked, there⟩ := leads_iff.mp (leads path first)
    obtain rfl := walk_place walked
    exact ⟨walked, there⟩

/-- Making a directory with those above it comes to what it does alone. Where it fails, a path that
goes back may fail for another reason. -/
theorem safe_makeDirectories {start final tree : Tree} {outcome : Except Fault Unit} {path : String}
    (sound : start.Sound) (ran : (Script.makeDirectories path).run start = (outcome, final))
    {R G : Tree → Tree → Prop} (reliable : Reliable R)
    (idle : ∀ tree, R tree tree → G tree tree)
    (moment : ∀ {before after}, R before after →
      before.Grows after ∧ Making start final outcome (Path.ancestors path) after)
    (makes : ∀ {tree changed path}, R tree tree → tree.makeDirectory path = .ok changed →
      changed.Grows final → G tree changed) :
    (Script.makeDirectories path).Safe R G
      (fun came after => R after after ∧
        ((came = .ok () ↔ outcome = .ok ()) ∧ (".." ∉ Path.steps path → came = outcome)) ∧
        (came = .ok () → ∀ upper ∈ Path.ancestors path, after.Leads upper)) tree := by
  rcases checked : checkPath path with fault | ⟨⟩
  · by_cases empty : path = ""
    · subst empty
      obtain ⟨rfl, -⟩ := Prod.mk.inj ran
      exact .pure fun later h => ⟨reliable.settled h, ⟨.rfl, fun _ => rfl⟩, by simp [Path.ancestors]⟩
    · obtain rfl := error_of_unchecked ran empty checked
      refine (safe_makeDirectories_of_unchecked reliable idle (fun h => (moment h).1) empty
        checked).weaken ?_
      rintro _ after ⟨settled, rfl⟩
      exact ⟨settled, ⟨.rfl, fun _ => rfl⟩, by rintro ⟨⟩⟩
  · have every : ∀ upper ∈ Path.ancestors path, checkPath upper = .ok () :=
      fun _ => checkPath_ancestors checked
    have chain := Path.isChain_ancestors path
    refine (safe_makeFirstOf reliable idle moment makes (addsDirectories_makeFirstOf every ran) chain
      every sound (List.Subset.refl _) ran (.refl final) (fun _ _ => rfl) id).weaken ?_
    rintro came after ⟨settled, made⟩
    refine ⟨settled, ⟨made.succeeds, fun plain => made.same fun upper member => ?_⟩, fun ok =>
      leads_of_head chain every (made.leads ok)⟩
    exact fun back => plain (Path.steps_subset_of_mem_ancestors member back)

end TableMigration.File
