import TableMigration.Proofs.File.Ancestors
import TableMigration.Proofs.File.Interleaving

/-!
# Making directories

Making a directory with those above it comes to the same whether others are doing so at the same time
or not (`safe_makeDirectories`). Only a path that goes back may be refused for another reason.
-/

namespace TableMigration.File

namespace Tree

variable {tree : Tree} {path upper : String}

/-- The path leads to a directory. -/
def Leads (tree : Tree) (path : String) : Prop :=
  tree.status path = some .directory

instance (tree : Tree) (path : String) : Decidable (tree.Leads path) :=
  inferInstanceAs (Decidable (_ = _))

/-- Something other than a missing entry keeps a directory from being made. -/
def Refused (tree : Tree) (path : String) (fault : Fault) : Prop :=
  (tree.walk (tree.startOf path) (Path.steps path) = .error fault ∧ fault ≠ .notFound) ∨
    fault = .alreadyExists ∧ ∃ place, tree.walk (tree.startOf path) (Path.steps path) = .ok place ∧
      tree.get? place ≠ some .directory

/-- Nothing but the directory itself is missing. -/
def Free (tree : Tree) (path : String) : Prop :=
  tree.walk (tree.startOf path) (Path.steps path) = .error .notFound ∧
    ∃ parent, tree.walk (tree.startOf path) (Path.steps path).dropLast = .ok parent

/-- A directory on the way is missing. -/
def Cut (tree : Tree) (path : String) : Prop :=
  tree.walk (tree.startOf path) (Path.steps path).dropLast = .error .notFound

theorem leads_iff :
    tree.Leads path ↔ checkPath path = .ok () ∧ ∃ place,
      tree.walk (tree.startOf path) (Path.steps path) = .ok place ∧
        tree.get? place = some .directory := by
  rw [Leads, status]
  constructor
  · intro h
    rcases found : tree.find path with fault | ⟨place, entry⟩
    · rw [found] at h
      cases h
    · obtain ⟨checked, walked, there, -⟩ := find_eq_ok_iff.mp found
      rw [found] at h
      refine ⟨checked, place, walked, ?_⟩
      cases entry with
      | file content => cases h
      | directory => exact there
  · rintro ⟨checked, place, walked, there⟩
    rw [find_eq_ok_iff.mpr ⟨checked, walked, there, fun other => absurd rfl other⟩]
    rfl

theorem walk_last (place : Place) {names : List String} (nonempty : names ≠ []) :
    tree.walk place names =
      (tree.walk place names.dropLast).bind fun parent => tree.step parent (names.getLast nonempty) := by
  conv_lhs => rw [← List.dropLast_append_getLast nonempty, walk_append]
  congr 1
  funext parent
  exact walk_singleton parent _

theorem walk_of_dropLast_error {place : Place} {names : List String} {fault : Fault}
    (h : tree.walk place names.dropLast = .error fault) : tree.walk place names = .error fault := by
  cases names with
  | nil => cases h
  | cons name names =>
    rw [walk_last place (List.cons_ne_nil name names), h]
    rfl

theorem walk_of_cut (h : tree.Cut path) :
    tree.walk (tree.startOf path) (Path.steps path) = .error .notFound :=
  walk_of_dropLast_error h

theorem walk_directory {place last : Place} {names : List String}
    (h : tree.walk place names = .ok last) (there : tree.get? last = some .directory) :
    tree.get? place = some .directory := by
  cases names with
  | nil =>
    obtain rfl := Except.ok.inj h
    exact there
  | cons name names =>
    rw [walk] at h
    rcases first : tree.step place name with fault | next
    · rw [first] at h
      cases h
    · exact get?_of_step first

/-- Steps that stay where they are matter only at the end, and only if that is no directory. -/
theorem walk_sameWay {long short : List String} (way : Path.SameWay long short) (place : Place) :
    tree.walk place long = tree.walk place short ∨
      tree.walk place long = .error .notADirectory ∧
        ∃ last, tree.walk place short = .ok last ∧ tree.get? last ≠ some .directory := by
  induction way generalizing place with
  | nil => exact .inl rfl
  | keep name _ ih =>
    rw [walk, walk]
    rcases tree.step place name with fault | next
    · exact .inl rfl
    · exact ih next
  | @skip long short _ ih =>
    -- A step that stays needs a directory under it, and so does the step after it.
    by_cases there : tree.get? place = some .directory
    · have stays : tree.step place "." = .ok place := by
        rw [step, there]
        rfl
      rw [walk, stays]
      exact ih place
    · have barred : ∀ name, tree.step place name = .error .notADirectory := fun name => by
        unfold step
        split
        · exact absurd ‹_› there
        · rfl
      rw [walk, barred]
      cases short with
      | nil => exact .inr ⟨rfl, place, rfl, there⟩
      | cons name short =>
        rw [walk, barred]
        exact .inl rfl

section Above

variable (above : Path.Above path upper)
include above

theorem startOf_above : tree.startOf upper = tree.startOf path := by
  rw [startOf, startOf, above.absolute]

theorem leads_above (checked : checkPath upper = .ok ()) {parent : Place}
    (walked : tree.walk (tree.startOf path) (Path.steps path).dropLast = .ok parent)
    (there : tree.get? parent = some .directory) : tree.Leads upper := by
  obtain ⟨before, after, nonempty, shape, way⟩ := above.steps
  rw [shape, List.dropLast_append_of_ne_nil nonempty, walk_append] at walked
  rcases first : tree.walk (tree.startOf path) before with fault | middle
  · rw [first] at walked
    cases walked
  rw [first] at walked
  refine leads_iff.mpr ⟨checked, middle, ?_, walk_directory walked there⟩
  rw [startOf_above above]
  rcases walk_sameWay way (tree.startOf path) with same | ⟨barred, -⟩
  · rw [← same, first]
  · rw [first] at barred
    cases barred

theorem steps_ne_nil : Path.steps path ≠ [] := by
  obtain ⟨before, after, nonempty, shape, -⟩ := above.steps
  rw [shape]
  exact List.append_ne_nil_of_right_ne_nil before nonempty

theorem leads_above_of_leads (checked : checkPath upper = .ok ()) (h : tree.Leads path) :
    tree.Leads upper := by
  obtain ⟨-, place, walked, -⟩ := leads_iff.mp h
  rw [walk_last _ (steps_ne_nil above)] at walked
  rcases upToLast : tree.walk (tree.startOf path) (Path.steps path).dropLast with fault | parent
  · rw [upToLast] at walked
    cases walked
  · rw [upToLast] at walked
    exact leads_above above checked upToLast (get?_of_step walked)

theorem leads_above_of_free (checked : checkPath upper = .ok ()) (h : tree.Free path) :
    tree.Leads upper := by
  obtain ⟨missing, parent, walked⟩ := h
  refine leads_above above checked walked ?_
  rw [walk_last _ (steps_ne_nil above), walked, Except.bind, step] at missing
  split at missing
  · assumption
  · cases missing

theorem walk_error_above {fault : Fault}
    (h : tree.walk (tree.startOf upper) (Path.steps upper) = .error fault) :
    tree.walk (tree.startOf path) (Path.steps path).dropLast = .error fault := by
  obtain ⟨before, after, nonempty, shape, way⟩ := above.steps
  rw [startOf_above above] at h
  rw [shape, List.dropLast_append_of_ne_nil nonempty, walk_append]
  rcases walk_sameWay way (tree.startOf path) with same | ⟨-, last, ends, -⟩
  · rw [same, h]
    rfl
  · rw [h] at ends
    cases ends

theorem walk_file_above {place : Place}
    (h : tree.walk (tree.startOf upper) (Path.steps upper) = .ok place)
    (there : tree.get? place ≠ some .directory) :
    tree.walk (tree.startOf path) (Path.steps path) = .error .notADirectory := by
  obtain ⟨before, after, nonempty, shape, way⟩ := above.steps
  rw [startOf_above above] at h
  rw [shape, walk_append]
  -- There is a step left at the file, or the way ended there before.
  rcases walk_sameWay way (tree.startOf path) with same | ⟨barred, -⟩
  · obtain ⟨name, rest, rfl⟩ := List.exists_cons_of_ne_nil nonempty
    rw [same, h, Except.bind, walk, step]
    split
    · exact absurd ‹_› there
    · rfl
  · rw [barred]
    rfl

end Above

theorem not_leads_of_missing {fault : Fault}
    (h : tree.walk (tree.startOf path) (Path.steps path) = .error fault) : ¬ tree.Leads path := by
  intro leads
  obtain ⟨-, place, walked, -⟩ := leads_iff.mp leads
  rw [h] at walked
  cases walked

theorem not_leads_of_refused {fault : Fault} (h : tree.Refused path fault) : ¬ tree.Leads path := by
  rcases h with ⟨barred, -⟩ | ⟨-, place, walked, file⟩
  · exact not_leads_of_missing barred
  · intro leads
    obtain ⟨-, other, walked', there⟩ := leads_iff.mp leads
    obtain rfl := Except.ok.inj (walked.symm.trans walked')
    exact file there

/-! ### Growing -/

namespace Sound

theorem isSome_of_walk (sound : tree.Sound) {place last : Place} {names : List String}
    (there : (tree.get? place).isSome = true) (h : tree.walk place names = .ok last) :
    (tree.get? last).isSome = true := by
  induction names generalizing place with
  | nil =>
    obtain rfl := Except.ok.inj h
    exact there
  | cons name names ih =>
    rw [walk] at h
    rcases first : tree.step place name with fault | next
    · rw [first] at h
      cases h
    · rw [first] at h
      exact ih (sound.isSome_of_step first) h

theorem isSome_startOf (sound : tree.Sound) (path : String) :
    (tree.get? (tree.startOf path)).isSome = true := by
  rw [Tree.startOf]
  split_ifs
  · rfl
  · rw [sound.workingDirectory]
    rfl

end Sound

namespace Grows

variable {before after : Tree} (grows : Grows before after)
include grows

theorem directory_of_isSome {place : Place} (there : (before.get? place).isSome = true)
    (directory : after.get? place = some .directory) : before.get? place = some .directory := by
  obtain ⟨entry, found⟩ := Option.isSome_iff_exists.mp there
  cases entry with
  | directory => exact found
  | file content =>
    obtain ⟨content, file⟩ := kind?_eq_file_iff.mp
      (grows.kind (kind?_eq_file_iff.mpr ⟨content, found⟩))
    rw [directory] at file
    cases file

theorem leads (h : before.Leads path) : after.Leads path := by
  obtain ⟨checked, place, walked, there⟩ := leads_iff.mp h
  refine leads_iff.mpr ⟨checked, place, ?_, grows.directory there⟩
  rw [grows.startOf]
  exact grows.walk walked

theorem refused (sound : before.Sound) {fault : Fault} (h : before.Refused path fault) :
    after.Refused path fault := by
  rw [Refused, grows.startOf]
  rcases h with ⟨barred, other⟩ | ⟨same, place, walked, there⟩
  · exact .inl ⟨grows.walk_error sound (sound.isSome_startOf path) barred other, other⟩
  · refine .inr ⟨same, place, grows.walk walked, fun directory => there ?_⟩
    exact grows.directory_of_isSome
      (sound.isSome_of_walk (sound.isSome_startOf path) walked) directory

theorem ready {parent : Place}
    (h : before.walk (before.startOf path) (Path.steps path).dropLast = .ok parent) :
    after.walk (after.startOf path) (Path.steps path).dropLast = .ok parent := by
  rw [grows.startOf]
  exact grows.walk h

end Grows

/-! ### One attempt -/

/-- What trying to make a directory is answered with, what it comes to and the tree after it. -/
inductive Attempt (tree : Tree) (path : String) :
    Except Fault Unit → Except Fault Unit → Tree → Prop where
  | leads : tree.Leads path → Attempt tree path (.error .alreadyExists) (.ok ()) tree
  | refused {fault : Fault} : tree.Refused path fault →
      Attempt tree path (.error fault) (.error fault) tree
  | free : tree.Free path →
      Attempt tree path (.ok ()) (.ok ()) (tree.put (tree.placeOf path) .directory)
  | cut : tree.Cut path → Attempt tree path (.error .notFound) (.error .notFound) tree

theorem attempt (tree : Tree) (checked : checkPath path = .ok ()) :
    ∃ result, Attempt tree path (tree.answer (.makeDirectory path)).1 result
      (tree.answer (.makeDirectory path)).2 := by
  have made : tree.makeDirectory path = _ := makeDirectory_eq checked
  change ∃ result, Attempt tree path (tree.keepOnFault (tree.makeDirectory path)).1 result
    (tree.keepOnFault (tree.makeDirectory path)).2
  rcases walked : tree.walk (tree.startOf path) (Path.steps path) with fault | place
  · rw [walked] at made
    by_cases missing : fault = .notFound
    · subst missing
      rcases upToLast : tree.walk (tree.startOf path) (Path.steps path).dropLast with fault | parent
      · obtain rfl : fault = .notFound :=
          Except.error.inj ((walk_of_dropLast_error upToLast).symm.trans walked)
        rw [upToLast] at made
        rw [made]
        exact ⟨_, .cut upToLast⟩
      · rw [upToLast] at made
        rw [made]
        exact ⟨_, .free ⟨walked, parent, upToLast⟩⟩
    · have same : tree.makeDirectory path = .error fault := by
        rw [made]
        cases fault <;> first | rfl | exact absurd rfl missing
      rw [same]
      exact ⟨_, .refused (.inl ⟨walked, missing⟩)⟩
  · rw [walked] at made
    rw [made]
    by_cases there : tree.get? place = some .directory
    · exact ⟨_, .leads (leads_iff.mpr ⟨checked, place, walked, there⟩)⟩
    · exact ⟨_, .refused (.inr ⟨rfl, place, walked, there⟩)⟩

theorem cut_of_attempt {result : Except Fault Unit} {after : Tree}
    (h : Attempt tree path (.error .notFound) result after) : tree.Cut path := by
  cases h with
  | refused refused =>
    rcases refused with ⟨-, other⟩ | ⟨same, -⟩
    · exact absurd rfl other
    · cases same
  | cut cut => exact cut

theorem answer_of_cut (checked : checkPath path = .ok ()) (cut : tree.Cut path) :
    tree.answer (.makeDirectory path) = (.error .notFound, tree) := by
  have missing : tree.walk _ _ = _ := cut
  refine answer_makeDirectory_of_error ?_
  rw [makeDirectory_eq checked, walk_of_cut cut, missing]
  rfl

/-! ### Making directories alone -/

theorem run_forgiveDirectory {answer result : Except Fault Unit} {after : Tree}
    (h : Attempt tree path answer result after) :
    (Script.forgiveDirectory path answer).run after = (result, after) := by
  have asked : ∀ fault, (Script.forgiveDirectory path (.error fault)).run after =
      (if after.Leads path then .ok () else .error fault, after) := by
    intro fault
    change (Script.run (if (after.status path == some .directory) = true then _ else _) after) = _
    split_ifs with first second
    · rfl
    · exact absurd (beq_iff_eq.mp first) second
    · exact absurd (beq_iff_eq.mpr ‹_›) first
    · rfl
  cases h with
  | leads leads =>
    rw [asked, if_pos leads]
  | free free => rfl
  | refused refused =>
    rw [asked, if_neg]
    exact not_leads_of_refused refused
  | cut cut =>
    rw [asked, if_neg]
    exact not_leads_of_missing (walk_of_cut cut)

/-- Making the first of some directories is an attempt, or one after the others were made. -/
theorem run_makeFirstOf_cons (checked : checkPath path = .ok ()) {paths : List String}
    {result : Except Fault Unit} {after : Tree}
    (h : (Script.makeFirstOf (path :: paths)).run tree = (result, after)) :
    (¬ tree.Cut path ∧ ∃ answer, Attempt tree path answer result after) ∨
      tree.Cut path ∧
        ((∃ fault, (Script.makeFirstOf paths).run tree = (.error fault, after) ∧
            result = .error fault) ∨
          ∃ middle, (Script.makeFirstOf paths).run tree = (.ok (), middle) ∧
            ∃ answer, Attempt middle path answer result after) := by
  have asked : (Script.makeDirectory path).run tree = tree.answer (.makeDirectory path) := rfl
  rw [Script.makeFirstOf, Script.run_bind, asked] at h
  -- Those above are made only if the way is found missing.
  by_cases cut : tree.Cut path
  · refine .inr ⟨cut, ?_⟩
    rw [answer_of_cut checked cut] at h
    dsimp only at h
    rw [Script.run_bind] at h
    rcases above : (Script.makeFirstOf paths).run tree with ⟨fault | ⟨⟩, middle⟩
    · rw [above] at h
      obtain ⟨rfl, rfl⟩ := Prod.mk.inj h
      exact .inl ⟨fault, rfl, rfl⟩
    · rw [above] at h
      dsimp only at h
      rw [Script.run_bind] at h
      obtain ⟨last, attempted⟩ := attempt middle checked
      refine .inr ⟨middle, rfl, (middle.answer (.makeDirectory path)).1, ?_⟩
      obtain ⟨rfl, rfl⟩ := Prod.mk.inj ((run_forgiveDirectory attempted).symm.trans h)
      exact attempted
  · obtain ⟨outcome, attempted⟩ := attempt tree checked
    refine .inl ⟨cut, (tree.answer (.makeDirectory path)).1, ?_⟩
    split at h
    · rename_i missing
      rw [missing] at attempted
      exact absurd (cut_of_attempt attempted) cut
    · obtain ⟨rfl, rfl⟩ := Prod.mk.inj ((run_forgiveDirectory attempted).symm.trans h)
      exact attempted

theorem makeDirectory_of_free (checked : checkPath path = .ok ()) (h : tree.Free path) :
    tree.makeDirectory path = .ok (tree.put (tree.placeOf path) .directory) := by
  obtain ⟨missing, parent, walked⟩ := h
  rw [makeDirectory_eq checked, missing, walked]
  rfl

theorem leads_of_makeDirectory {changed : Tree} (h : tree.makeDirectory path = .ok changed) :
    changed.Leads path := by
  have grows := grows_makeDirectory h
  obtain ⟨parent, name, aimed, fits, -, rfl⟩ := makeDirectory_eq_ok h
  have there : (tree.put (parent ++ [name]) .directory).get? (parent ++ [name]) =
      some .directory := by
    rw [get?_put (by simp), if_pos rfl]
  refine leads_iff.mpr ⟨(target_place aimed).1, parent ++ [name], ?_, there⟩
  rw [grows.walk_of_target aimed fits, there]
  rfl

/-- Only directories are added, where nothing was. -/
def AddsDirectories (before after : Tree) : Prop :=
  ∀ place, after.get? place = before.get? place ∨
    before.get? place = none ∧ after.get? place = some .directory

theorem AddsDirectories.trans {before middle after : Tree} (first : AddsDirectories before middle)
    (last : AddsDirectories middle after) : AddsDirectories before after := by
  intro place
  rcases first place with same | ⟨free, made⟩ <;> rcases last place with same' | ⟨free', made'⟩
  · exact .inl (same'.trans same)
  · exact .inr ⟨same ▸ free', made'⟩
  · exact .inr ⟨free, same'.trans made⟩
  · rw [made] at free'
    cases free'

theorem addsDirectories_makeDirectory {changed : Tree} (h : tree.makeDirectory path = .ok changed) :
    AddsDirectories tree changed := by
  obtain ⟨parent, name, -, -, free, rfl⟩ := makeDirectory_eq_ok h
  intro place
  rw [get?_put (by simp)]
  split_ifs with same
  · exact .inr ⟨same ▸ free, rfl⟩
  · exact .inl rfl

namespace Attempt

variable {answer result : Except Fault Unit} {after : Tree} (h : Attempt tree path answer result after)
include h

theorem eq_or_makeDirectory (checked : checkPath path = .ok ()) :
    after = tree ∨ result = .ok () ∧ tree.makeDirectory path = .ok after := by
  cases h with
  | leads | refused | cut => exact .inl rfl
  | free free => exact .inr ⟨rfl, makeDirectory_of_free checked free⟩

theorem leads_of_ok (checked : checkPath path = .ok ()) (ok : result = .ok ()) :
    after.Leads path := by
  cases h with
  | leads leads => exact leads
  | refused | cut => cases ok
  | free free => exact leads_of_makeDirectory (makeDirectory_of_free checked free)

theorem refused_or_cut {fault : Fault} (error : result = .error fault) :
    after = tree ∧ (tree.Refused path fault ∨ fault = .notFound ∧ tree.Cut path) := by
  cases h with
  | leads | free => cases error
  | refused refused =>
    obtain rfl := Except.error.inj error
    exact ⟨rfl, .inl refused⟩
  | cut cut => exact ⟨rfl, .inr ⟨(Except.error.inj error).symm, cut⟩⟩

theorem grows_later (checked : checkPath path = .ok ()) {later : Tree} (grows : tree.Grows later)
    (leads : result = .ok () → later.Leads path) : after.Grows later := by
  rcases h.eq_or_makeDirectory checked with rfl | ⟨ok, made⟩
  · exact grows
  obtain ⟨parent, name, aimed, -, free, rfl⟩ := makeDirectory_eq_ok made
  obtain ⟨-, place, walked, there⟩ := leads_iff.mp (leads ok)
  rw [walk_place walked, grows.startOf, ← placeOf, placeOf_of_target aimed] at there
  refine ⟨grows.workingDirectory, fun {other kind} present => ?_⟩
  rw [kind?, get?_put (by simp)] at present
  split_ifs at present with same
  · rw [same, ← present, kind?, there]
  · exact grows.kind present

theorem addsDirectories (checked : checkPath path = .ok ()) : AddsDirectories tree after := by
  rcases h.eq_or_makeDirectory checked with rfl | ⟨-, made⟩
  · exact fun place => .inl rfl
  · exact addsDirectories_makeDirectory made

end Attempt

theorem not_leads_of_stopped {fault : Fault}
    (h : tree.Refused path fault ∨ fault = .notFound ∧ tree.Cut path) :
    ¬ tree.Leads path ∧ ¬ tree.Free path := by
  rcases h with refused | ⟨-, cut⟩
  · refine ⟨not_leads_of_refused refused, fun ⟨missing, _⟩ => ?_⟩
    rcases refused with ⟨barred, other⟩ | ⟨-, place, walked, -⟩
    · exact other (Except.error.inj (barred.symm.trans missing))
    · rw [missing] at walked
      cases walked
  · refine ⟨not_leads_of_missing (walk_of_cut cut), fun ⟨_, parent, walked⟩ => ?_⟩
    rw [Cut, walked] at cut
    cases cut

/-- A way that never goes back to an entry was there before, if the entry was. -/
theorem walk_of_grows {before after : Tree} (sound : before.Sound) (grows : before.Grows after)
    {place last : Place} {names : List String} (plain : ".." ∉ names)
    (walked : after.walk place names = .ok last) (there : (before.get? last).isSome = true) :
    before.walk place names = .ok last := by
  induction names using List.reverseRecOn generalizing last with
  | nil => exact walked
  | append_singleton names name ih =>
    rw [List.mem_append, not_or, List.mem_singleton] at plain
    rw [walk_append] at walked ⊢
    rcases first : after.walk place names with fault | parent
    · rw [first] at walked
      cases walked
    rw [first, Except.bind, walk_singleton] at walked
    -- A step that does not go back ends below its parent, or stays there.
    have directory : before.get? parent = some .directory := by
      have shape := step_place walked
      rw [Place.next, if_neg (Ne.symm plain.2)] at shape
      split_ifs at shape with stays
      · subst shape
        exact grows.directory_of_isSome there (get?_of_step walked)
      · rw [shape] at there
        exact sound.parent there
    rw [ih plain.1 first (by rw [directory]; rfl), Except.bind, walk_singleton]
    rw [step, grows.directory directory] at walked
    rw [step, directory]
    dsimp only at walked ⊢
    split_ifs at walked ⊢ with stays back long present
    · exact walked
    · exact walked
    · exact walked
    · obtain rfl := Except.ok.inj walked
      exact absurd there ‹_›

section

variable {paths : List String} (chain : paths.IsChain Path.Above)
  (checked : ∀ path ∈ paths, checkPath path = .ok ()) {result : Except Fault Unit} {after : Tree}
  (ran : (Script.makeFirstOf paths).run tree = (result, after))

include chain checked in
theorem leads_of_head (h : ∀ path ∈ paths.head?, tree.Leads path) :
    ∀ path ∈ paths, tree.Leads path := by
  induction paths with
  | nil => simp
  | cons path paths ih =>
    have first : tree.Leads path := h path rfl
    rw [List.forall_mem_cons] at checked ⊢
    refine ⟨first, ih chain.of_cons checked.2 fun upper member => ?_⟩
    cases paths with
    | nil => cases member
    | cons other paths =>
      obtain rfl := Option.some.inj member
      exact leads_above_of_leads (List.isChain_cons_cons.mp chain).1
        (checked.2 _ List.mem_cons_self) first

include checked ran

theorem addsDirectories_makeFirstOf : AddsDirectories tree after := by
  induction paths generalizing result after with
  | nil =>
    obtain ⟨-, rfl⟩ := Prod.mk.inj ran
    exact fun place => .inl rfl
  | cons path paths ih =>
    rw [List.forall_mem_cons] at checked
    rcases run_makeFirstOf_cons checked.1 ran with ⟨-, answer, attempt⟩ |
      ⟨-, ⟨fault, stopped, -⟩ | ⟨middle, went, answer, attempt⟩⟩
    · exact attempt.addsDirectories checked.1
    · exact ih checked.2 stopped
    · exact (ih checked.2 went).trans (attempt.addsDirectories checked.1)

/-- A tree where the directories are has all that was made. -/
theorem grows_makeFirstOf {later : Tree} (grows : tree.Grows later)
    (leads : ∀ path ∈ paths, later.Leads path) : after.Grows later := by
  induction paths generalizing result after with
  | nil =>
    obtain ⟨-, rfl⟩ := Prod.mk.inj ran
    exact grows
  | cons path paths ih =>
    rw [List.forall_mem_cons] at checked leads
    rcases run_makeFirstOf_cons checked.1 ran with ⟨-, answer, attempt⟩ |
      ⟨-, ⟨fault, stopped, -⟩ | ⟨middle, went, answer, attempt⟩⟩
    · exact attempt.grows_later checked.1 grows fun _ => leads.1
    · exact ih checked.2 stopped leads.2
    · exact attempt.grows_later checked.1 (ih checked.2 went leads.2) fun _ => leads.1

theorem leads_makeFirstOf (ok : result = .ok ()) : ∀ path ∈ paths.head?, after.Leads path := by
  cases paths with
  | nil => simp
  | cons path paths =>
    rintro _ ⟨⟩
    rw [List.forall_mem_cons] at checked
    rcases run_makeFirstOf_cons checked.1 ran with ⟨-, answer, attempt⟩ |
      ⟨-, ⟨fault, -, rfl⟩ | ⟨middle, -, answer, attempt⟩⟩
    · exact attempt.leads_of_ok checked.1 ok
    · cases ok
    · exact attempt.leads_of_ok checked.1 ok

include chain in
/-- If making them fails, the first of the directories is not there, and more than it is missing. -/
theorem not_leads_makeFirstOf {fault : Fault} (error : result = .error fault) :
    ∀ path ∈ paths.head?, ¬ after.Leads path ∧ ¬ after.Free path := by
  induction paths generalizing result after with
  | nil => simp
  | cons path paths ih =>
    rintro _ ⟨⟩
    rw [List.forall_mem_cons] at checked
    rcases run_makeFirstOf_cons checked.1 ran with ⟨-, answer, attempt⟩ |
      ⟨-, ⟨other, stopped, rfl⟩ | ⟨middle, -, answer, attempt⟩⟩
    · obtain ⟨rfl, stopped⟩ := attempt.refused_or_cut error
      exact not_leads_of_stopped stopped
    · -- It failed above, and without the directory above there can be none below.
      cases paths with
      | nil => cases (Prod.mk.inj stopped).1
      | cons upper paths =>
        have above := (List.isChain_cons_cons.mp chain).1
        have none := (ih chain.of_cons checked.2 stopped error upper rfl).1
        have given := checked.2 upper List.mem_cons_self
        exact ⟨fun leads => none (leads_above_of_leads above given leads),
          fun free => none (leads_above_of_free above given free)⟩
    · obtain ⟨rfl, stopped⟩ := attempt.refused_or_cut error
      exact not_leads_of_stopped stopped

/-- Where the way to a directory was missing, no file stands in it once those above were made. -/
theorem directory_of_walk_above (sound : tree.Sound) {path upper : String}
    (above : Path.Above path upper) (cut : tree.Cut path)
    (plain : ".." ∉ Path.steps upper) {place : Place}
    (walked : after.walk (after.startOf upper) (Path.steps upper) = .ok place) :
    after.get? place = some .directory := by
  by_contra file
  have grows : tree.Grows after := by
    have := grows_run (Script.makeFirstOf paths) tree
    rwa [ran] at this
  have afterSound : after.Sound := by
    have := sound.run (Script.makeFirstOf paths)
    rwa [ran] at this
  have present : (tree.get? place).isSome = true := by
    rcases addsDirectories_makeFirstOf checked ran place with same | ⟨-, made⟩
    · rw [← same]
      exact afterSound.isSome_of_walk (afterSound.isSome_startOf upper) walked
    · exact absurd made file
  have early : tree.walk (tree.startOf upper) (Path.steps upper) = .ok place := by
    rw [grows.startOf] at walked
    exact walk_of_grows sound grows plain walked present
  have barred := walk_file_above above early fun directory => file (grows.directory directory)
  rw [walk_of_cut cut] at barred
  cases barred

include chain in
/-- Unless a path goes back, whatever keeps one of the directories from being made keeps the first
from it, and in the same words. -/
theorem stopped_makeFirstOf (sound : tree.Sound)
    (plain : ∀ path ∈ paths, ".." ∉ Path.steps path) {fault : Fault}
    (error : result = .error fault) :
    ∀ path ∈ paths.head?, after.Refused path fault ∨ fault = .notFound ∧ after.Cut path := by
  induction paths generalizing result after with
  | nil => simp
  | cons path paths ih =>
    rintro _ ⟨⟩
    rw [List.forall_mem_cons] at checked plain
    rcases run_makeFirstOf_cons checked.1 ran with ⟨-, answer, attempt⟩ |
      ⟨cut, ⟨other, stopped, rfl⟩ | ⟨middle, -, answer, attempt⟩⟩
    · obtain ⟨rfl, stopped⟩ := attempt.refused_or_cut error
      exact stopped
    · cases paths with
      | nil => cases (Prod.mk.inj stopped).1
      | cons upper paths =>
        have above := (List.isChain_cons_cons.mp chain).1
        -- What stopped the path above stops this one on its way.
        rcases ih chain.of_cons checked.2 stopped plain.2 error upper rfl with
          (⟨barred, given⟩ | ⟨-, place, walked, file⟩) | ⟨same, missing⟩
        · exact .inl (.inl ⟨walk_of_dropLast_error (walk_error_above above barred), given⟩)
        · exact absurd (directory_of_walk_above checked.2 stopped sound above cut
            (plain.2 upper List.mem_cons_self) walked) file
        · exact .inr ⟨same, walk_error_above above (walk_of_cut missing)⟩
    · obtain ⟨rfl, stopped⟩ := attempt.refused_or_cut error
      exact stopped

end

end Tree

end TableMigration.File
