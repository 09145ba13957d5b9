import TableMigration.Proofs.File.Growth

/-!
# Scripts side by side

Scripts that share a tree, each making its requests in its own order. What one of them comes to is
shown from what it relies on and what the others guarantee, whatever the schedule (`Pool.safe_run`).
-/

namespace TableMigration.File

variable {α β : Type}

/-- Scripts that run side by side on a tree. -/
structure Pool (α : Type) where
  scripts : List (Script α)
  tree : Tree

namespace Pool

/-- One of the scripts makes its next request; one that is done, or not there, makes none. -/
def step (pool : Pool α) (i : Nat) : Pool α :=
  match pool.scripts[i]? with
  | some (.ask request next) =>
    let (answer, tree) := pool.tree.answer request
    { scripts := pool.scripts.set i (next answer), tree }
  | _ => pool

/-- The scripts make requests in the order of a schedule. -/
def run (pool : Pool α) (schedule : List Nat) : Pool α :=
  schedule.foldl step pool

/-- The trees that there are in the course of a schedule. -/
def trees : Pool α → List Nat → List Tree
  | pool, [] => [pool.tree]
  | pool, i :: schedule => pool.tree :: (pool.step i).trees schedule

/-- The pool whose scripts are all done. -/
def done (results : List α) (tree : Tree) : Pool α where
  scripts := results.map .done
  tree := tree

/-- What the scripts that are done came to. -/
def results (pool : Pool α) : List α :=
  pool.scripts.filterMap fun
    | .done result => some result
    | .ask _ _ => none

theorem eq_done {pool : Pool α} (h : pool.results.length = pool.scripts.length) :
    pool = done pool.results pool.tree := by
  obtain ⟨scripts, tree⟩ := pool
  rw [done, Pool.mk.injEq]
  refine ⟨?_, rfl⟩
  rw [results] at h ⊢
  dsimp only at h ⊢
  have all := List.filterMap_length_eq_length.mp h
  clear h
  induction scripts with
  | nil => rfl
  | cons script scripts ih =>
    rw [List.forall_mem_cons] at all
    cases script with
    | done result => rw [List.filterMap_cons, List.map_cons, ← ih all.2]
    | ask request next => cases all.1

theorem step_of_ask {pool : Pool α} {i : Nat} {request : Request} {next : request.Answer → Script α}
    (h : pool.scripts[i]? = some (.ask request next)) :
    pool.step i =
      { scripts := pool.scripts.set i (next (pool.tree.answer request).1)
        tree := (pool.tree.answer request).2 } := by
  rw [step, h]

theorem step_of_done {pool : Pool α} {i : Nat}
    (h : ∀ request next, pool.scripts[i]? ≠ some (.ask request next)) : pool.step i = pool := by
  unfold step
  split
  · exact absurd ‹_› (h _ _)
  · rfl

/-- All that a step can do. -/
theorem step_cases (pool : Pool α) (i : Nat) :
    pool.step i = pool ∨ ∃ request next, pool.scripts[i]? = some (.ask request next) ∧
      pool.step i =
        { scripts := pool.scripts.set i (next (pool.tree.answer request).1)
          tree := (pool.tree.answer request).2 } := by
  rcases there : pool.scripts[i]? with - | (result | ⟨request, next⟩)
  · exact .inl (step_of_done (by simp [there]))
  · exact .inl (step_of_done (by simp [there]))
  · exact .inr ⟨request, next, rfl, step_of_ask there⟩

theorem length_step (pool : Pool α) (i : Nat) :
    (pool.step i).scripts.length = pool.scripts.length := by
  unfold step
  split
  · exact List.length_set
  · rfl

theorem length_run (pool : Pool α) (schedule : List Nat) :
    (pool.run schedule).scripts.length = pool.scripts.length := by
  induction schedule generalizing pool with
  | nil => rfl
  | cons i schedule ih => exact (ih _).trans (length_step pool i)

theorem tree_mem_trees (pool : Pool α) (schedule : List Nat) : pool.tree ∈ pool.trees schedule := by
  cases schedule with
  | nil => exact List.mem_singleton_self _
  | cons => exact List.mem_cons_self

theorem run_tree_mem_trees (pool : Pool α) (schedule : List Nat) :
    (pool.run schedule).tree ∈ pool.trees schedule := by
  induction schedule generalizing pool with
  | nil => exact List.mem_singleton_self _
  | cons i schedule ih => exact List.mem_cons_of_mem _ (ih _)

end Pool

/-! ### Relying on the others -/

/-- What a script may rely on: a tree that was left alone is as good as it was. -/
structure Reliable (R : Tree → Tree → Prop) : Prop where
  settled : ∀ {before after}, R before after → R after after
  trans : ∀ {before middle after}, R before middle → R middle after → R before after

/-- A script whose every request does what `G` allows and whose result is as `Q` says, if others only
do what `R` allows in between. -/
def Script.Safe (R G : Tree → Tree → Prop) (Q : α → Tree → Prop) : Script α → Tree → Prop
  | .done result, tree => ∀ later, R tree later → Q result later
  | .ask request next, tree => ∀ later, R tree later →
      G later (later.answer request).2 ∧
        (next (later.answer request).1).Safe R G Q (later.answer request).2

namespace Script.Safe

variable {R G : Tree → Tree → Prop} {Q Q' : α → Tree → Prop} {tree : Tree}

theorem later (reliable : Reliable R) {script : Script α} (safe : script.Safe R G Q tree)
    {after : Tree} (h : R tree after) : script.Safe R G Q after := by
  cases script with
  | done result => exact fun last after => safe last (reliable.trans h after)
  | ask request next => exact fun last after => safe last (reliable.trans h after)

theorem weaken {script : Script α} (safe : script.Safe R G Q tree)
    (h : ∀ result tree, Q result tree → Q' result tree) : script.Safe R G Q' tree := by
  induction script generalizing tree with
  | done result => exact fun later after => h _ _ (safe later after)
  | ask request next ih => exact fun later after => ⟨(safe later after).1, ih _ (safe later after).2⟩

theorem allow {G' : Tree → Tree → Prop} {script : Script α} (safe : script.Safe R G Q tree)
    (h : ∀ before after, G before after → G' before after) : script.Safe R G' Q tree := by
  induction script generalizing tree with
  | done result => exact safe
  | ask request next ih =>
    exact fun later after => ⟨h _ _ (safe later after).1, ih _ (safe later after).2⟩

theorem pure {result : α} (h : ∀ later, R tree later → Q result later) :
    (pure result : Script α).Safe R G Q tree := h

theorem bind (reliable : Reliable R) {script : Script α} {f : α → Script β}
    {P : β → Tree → Prop} (safe : script.Safe R G (fun result tree => (f result).Safe R G P tree) tree) :
    (script >>= f).Safe R G P tree := by
  change (script.bind f).Safe R G P tree
  induction script generalizing tree with
  | done result =>
    rw [Script.bind]
    cases rest : f result with
    | done last =>
      intro later after
      have here : (f result).Safe R G P later := safe later after
      rw [rest] at here
      exact here later (reliable.settled after)
    | ask request next =>
      intro later after
      have here : (f result).Safe R G P later := safe later after
      rw [rest] at here
      exact here later (reliable.settled after)
  | ask request next ih => exact fun later after => ⟨(safe later after).1, ih _ (safe later after).2⟩

/-- A script that nobody disturbs. -/
theorem run {script : Script α} (settled : ∀ tree, R tree tree) (safe : script.Safe R G Q tree) :
    Q (script.run tree).1 (script.run tree).2 := by
  induction script generalizing tree with
  | done result => exact safe tree (settled tree)
  | ask request next ih => exact ih _ (safe tree (settled tree)).2

end Script.Safe

namespace Pool

section

variable {R G : Nat → Tree → Tree → Prop} {Q : Nat → α → Tree → Prop} {M : Tree → Prop}

/-- Every script of the pool is safe from here on. -/
def Safe (R G : Nat → Tree → Tree → Prop) (Q : Nat → α → Tree → Prop) (pool : Pool α) : Prop :=
  ∀ i (script : Script α), pool.scripts[i]? = some script → script.Safe (R i) (G i) (Q i) pool.tree

theorem safe_step (reliable : ∀ i, Reliable (R i)) (alone : ∀ i tree, M tree → R i tree tree)
    (others : ∀ i j before after, i ≠ j → M before → M after → G j before after → R i before after)
    {pool : Pool α} (safe : pool.Safe R G Q) {i : Nat} (before : M pool.tree)
    (after : M (pool.step i).tree) : (pool.step i).Safe R G Q := by
  obtain same | ⟨request, next, there, stepped⟩ := pool.step_cases i
  · rwa [same]
  rw [stepped] at after ⊢
  obtain ⟨guaranteed, rest⟩ := safe i _ there pool.tree (alone i _ before)
  -- The script that took its turn goes on; for any other its step is what others may do.
  intro j script found
  rw [List.getElem?_set] at found
  split at found
  · rename_i same
    subst same
    split at found
    · obtain rfl := Option.some.inj found
      exact rest
    · cases found
  · rename_i different
    exact (safe j script found).later (reliable j)
      (others j i _ _ (Ne.symm different) before after guaranteed)

theorem guaranteed (alone : ∀ i tree, M tree → R i tree tree) {pool : Pool α}
    (safe : pool.Safe R G Q) (here : M pool.tree) (i : Nat) :
    (pool.step i).tree = pool.tree ∨ G i pool.tree (pool.step i).tree := by
  obtain same | ⟨request, next, there, stepped⟩ := pool.step_cases i
  · exact .inl (by rw [same])
  · rw [stepped]
    exact .inr (safe i _ there pool.tree (alone i _ here)).1

/-- What every script keeps up holds throughout. -/
theorem holds_throughout (reliable : ∀ i, Reliable (R i))
    (alone : ∀ i tree, M tree → R i tree tree)
    (others : ∀ i j before after, i ≠ j → M before → M after → G j before after → R i before after)
    (keeps : ∀ i before after, G i before after → M after) {pool : Pool α}
    (safe : pool.Safe R G Q) (here : M pool.tree) (schedule : List Nat) :
    ∀ tree ∈ pool.trees schedule, M tree := by
  induction schedule generalizing pool with
  | nil => simpa [trees] using here
  | cons i schedule ih =>
    have next : M (pool.step i).tree := by
      rcases guaranteed alone safe here i with same | guarantee
      · rwa [same]
      · exact keeps i _ _ guarantee
    rw [trees, List.forall_mem_cons]
    exact ⟨here, ih (safe_step reliable alone others safe here next) next⟩

/-- If each script is safe when the others keep their guarantees, all are safe in any schedule. -/
theorem safe_run (reliable : ∀ i, Reliable (R i)) (alone : ∀ i tree, M tree → R i tree tree)
    (others : ∀ i j before after, i ≠ j → M before → M after → G j before after → R i before after)
    {pool : Pool α} (safe : pool.Safe R G Q) {schedule : List Nat}
    (moments : ∀ tree ∈ pool.trees schedule, M tree) : (pool.run schedule).Safe R G Q := by
  induction schedule generalizing pool with
  | nil => exact safe
  | cons i schedule ih =>
    rw [trees, List.forall_mem_cons] at moments
    exact ih (safe_step reliable alone others safe moments.1
      (moments.2 _ (tree_mem_trees _ schedule))) moments.2

/-- What each script comes to once all are done. -/
theorem safe_done (reliable : ∀ i, Reliable (R i)) (alone : ∀ i tree, M tree → R i tree tree)
    (others : ∀ i j before after, i ≠ j → M before → M after → G j before after → R i before after)
    {pool : Pool α} (safe : pool.Safe R G Q) {schedule : List Nat}
    (moments : ∀ tree ∈ pool.trees schedule, M tree) {results : List α} {after : Tree}
    (finished : pool.run schedule = done results after) {i : Nat} {result : α}
    (h : results[i]? = some result) : Q i result after := by
  have final := safe_run reliable alone others safe moments
  have last := moments _ (run_tree_mem_trees pool schedule)
  rw [finished] at final last
  have isDone : (done results after).scripts[i]? = some (.done result) := by
    rw [done, List.getElem?_map, h]
    rfl
  exact final i _ isDone after (alone i after last)

end

theorem grows_step (pool : Pool α) (i : Nat) : pool.tree.Grows (pool.step i).tree := by
  obtain same | ⟨request, next, there, stepped⟩ := pool.step_cases i
  · rw [same]
    exact .refl _
  · rw [stepped]
    exact Tree.grows_answer _ _

theorem grows_run (pool : Pool α) (schedule : List Nat) :
    pool.tree.Grows (pool.run schedule).tree := by
  induction schedule generalizing pool with
  | nil => exact .refl _
  | cons i schedule ih => exact (grows_step pool i).trans (ih _)

/-! ### One after another -/

/-- Runs scripts one after another. -/
def runEach : List (Script α) → Tree → List α × Tree
  | [], tree => ([], tree)
  | script :: scripts, tree =>
    let (result, tree) := script.run tree
    let (results, tree) := runEach scripts tree
    (result :: results, tree)

theorem run_append (pool : Pool α) (first last : List Nat) :
    pool.run (first ++ last) = (pool.run first).run last :=
  List.foldl_append

/-- A script may make all its requests at once. -/
theorem exists_run_one (script : Script α) {pool : Pool α} {i : Nat}
    (h : pool.scripts[i]? = some script) :
    ∃ schedule, pool.run schedule =
      { scripts := pool.scripts.set i (.done (script.run pool.tree).1)
        tree := (script.run pool.tree).2 } := by
  -- The schedule is the script's own number, once for each of its requests.
  induction script generalizing pool with
  | done result =>
    refine ⟨[], ?_⟩
    obtain ⟨within, found⟩ := List.getElem?_eq_some_iff.mp h
    rw [Script.run, ← found, List.set_getElem_self]
    rfl
  | ask request next ih =>
    obtain ⟨within, -⟩ := List.getElem?_eq_some_iff.mp h
    have there : (pool.step i).scripts[i]? = some (next (pool.tree.answer request).1) := by
      rw [step_of_ask h, List.getElem?_set_self within]
    obtain ⟨schedule, reached⟩ := ih _ there
    refine ⟨i :: schedule, ?_⟩
    change (pool.step i).run schedule = _
    rw [reached, step_of_ask h]
    simp [Script.run]

/-- Running scripts one after another is one of the schedules. -/
theorem exists_runEach (before : List α) (scripts : List (Script α)) (tree : Tree) :
    ∃ schedule, Pool.run { scripts := before.map .done ++ scripts, tree } schedule =
      done (before ++ (runEach scripts tree).1) (runEach scripts tree).2 := by
  induction scripts generalizing before tree with
  | nil => exact ⟨[], by simp [run, done, runEach]⟩
  | cons script scripts ih =>
    have next : ({ scripts := before.map .done ++ script :: scripts, tree } : Pool α).scripts[
        before.length]? = some script := by
      simp
    obtain ⟨first, reached⟩ := exists_run_one script next
    obtain ⟨last, finished⟩ := ih (before ++ [(script.run tree).1]) (script.run tree).2
    refine ⟨first ++ last, ?_⟩
    rw [run_append, reached]
    simpa [runEach] using finished

/-- Whatever turns the scripts took, they can all be brought to an end. -/
theorem exists_completion (pool : Pool α) (first : List Nat) :
    ∃ rest results after, pool.run (first ++ rest) = done results after := by
  obtain ⟨rest, finished⟩ := exists_runEach [] (pool.run first).scripts (pool.run first).tree
  exact ⟨rest, _, _, by rw [run_append]; exact finished⟩

end Pool

end TableMigration.File
