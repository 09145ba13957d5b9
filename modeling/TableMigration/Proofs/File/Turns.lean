import TableMigration.Proofs.File.Interleaving

/-!
# The turns of one script

Among scripts side by side, each takes turns of its own: its requests, one after another, each in the
tree that the others have left by then. These alone decide what it comes to (`Pool.takes_turns`).
-/

namespace TableMigration.File

variable {α β ε : Type}

/-- A request with the tree that answers it. -/
structure Turn where
  request : Request
  tree : Tree

/-- A request that looks into no file and changes none. -/
def Request.OpensNoFile : Request → Prop
  | .status _ => True
  | .makeDirectory _ => True
  | _ => False

/-- A request that changes no file but the one at a path. -/
def Request.WritesNowhereBut (path : String) : Request → Prop
  | .write other _ => other = path
  | .append _ _ => False
  | _ => True

theorem Request.OpensNoFile.writesNowhereBut {request : Request} (h : request.OpensNoFile)
    (path : String) : request.WritesNowhereBut path := by
  cases request with
  | status => trivial
  | makeDirectory => trivial
  | _ => exact h.elim

namespace Script

/-- With these turns, the script comes to the result. -/
inductive Takes : Script α → List Turn → α → Prop
  | done (result : α) : Takes (.done result) [] result
  | ask {request : Request} {next : request.Answer → Script α} {tree : Tree} {turns : List Turn}
      {result : α} (later : Takes (next (tree.answer request).1) turns result) :
      Takes (.ask request next) (⟨request, tree⟩ :: turns) result

theorem takes_pure_iff {a result : α} {turns : List Turn} :
    (pure a : Script α).Takes turns result ↔ turns = [] ∧ result = a := by
  constructor
  · rintro ⟨⟩
    exact ⟨rfl, rfl⟩
  · rintro ⟨rfl, rfl⟩
    exact .done result

theorem takes_ask_iff {request : Request} {next : request.Answer → Script α} {turns : List Turn}
    {result : α} :
    (Script.ask request next).Takes turns result ↔ ∃ tree later, turns = ⟨request, tree⟩ :: later ∧
      (next (tree.answer request).1).Takes later result := by
  constructor
  · rintro ⟨⟩
    exact ⟨_, _, rfl, ‹_›⟩
  · rintro ⟨tree, later, rfl, takes⟩
    exact .ask takes

/-- A single request takes one turn, and comes to what it would come to in that tree alone. -/
theorem exists_of_takes_once {request : Request} {next : request.Answer → Script α}
    (ends : ∀ answer, ∃ outcome, next answer = .done outcome) {turns : List Turn} {result : α}
    (h : (Script.ask request next).Takes turns result) :
    ∃ tree, turns = [⟨request, tree⟩] ∧ result = ((Script.ask request next).run tree).1 := by
  obtain ⟨tree, later, rfl, rest⟩ := takes_ask_iff.mp h
  obtain ⟨outcome, isDone⟩ := ends (tree.answer request).1
  rw [isDone] at rest
  obtain ⟨rfl, rfl⟩ := takes_pure_iff.mp rest
  refine ⟨tree, rfl, ?_⟩
  change _ = ((next (tree.answer request).1).run (tree.answer request).2).1
  rw [isDone]
  rfl

theorem takes_bind_iff {script : Script α} {f : α → Script β} {turns : List Turn} {result : β} :
    (script >>= f).Takes turns result ↔ ∃ first last a, turns = first ++ last ∧
      script.Takes first a ∧ (f a).Takes last result := by
  change (script.bind f).Takes turns result ↔ _
  induction script generalizing turns with
  | done a =>
    constructor
    · exact fun takes => ⟨[], turns, a, rfl, .done a, takes⟩
    · rintro ⟨_, last, _, rfl, ⟨⟩, takes⟩
      exact takes
  | ask request next ih =>
    rw [Script.bind, takes_ask_iff]
    constructor
    · rintro ⟨tree, later, rfl, takes⟩
      obtain ⟨first, last, a, rfl, start, rest⟩ := (ih _).mp takes
      exact ⟨_ :: first, last, a, rfl, .ask start, rest⟩
    · rintro ⟨first, last, a, rfl, start, rest⟩
      obtain ⟨tree, later, rfl, onward⟩ := takes_ask_iff.mp start
      exact ⟨tree, later ++ last, rfl, (ih _).mpr ⟨later, last, a, rfl, onward, rest⟩⟩

theorem exists_of_takes_ok {script : Script (Except ε α)} {f : α → ExceptT ε Script β}
    {turns : List Turn} {result : β}
    (h : (ExceptT.mk script >>= f).run.Takes turns (.ok result)) :
    ∃ first last a, turns = first ++ last ∧ script.Takes first (.ok a) ∧
      (f a).run.Takes last (.ok result) := by
  obtain ⟨first, last, outcome, rfl, start, rest⟩ := takes_bind_iff.mp h
  cases outcome with
  | ok a => exact ⟨first, last, a, rfl, start, rest⟩
  | error fault => cases (takes_pure_iff.mp rest).2

/-! ### Kinds of requests -/

/-- Every request that the script can come to make is of a kind. -/
def Asks (P : Request → Prop) : Script α → Prop
  | .done _ => True
  | .ask request next => P request ∧ ∀ answer, (next answer).Asks P

namespace Asks

variable {P P' : Request → Prop}

theorem pure (a : α) : (pure a : Script α).Asks P := trivial

theorem once {request : Request} {next : request.Answer → Script α} (asked : P request)
    (ends : ∀ answer, ∃ outcome, next answer = .done outcome) : (Script.ask request next).Asks P := by
  refine ⟨asked, fun answer => ?_⟩
  obtain ⟨outcome, isDone⟩ := ends answer
  rw [isDone]
  trivial

theorem bind {script : Script α} {f : α → Script β} (first : script.Asks P)
    (later : ∀ a, (f a).Asks P) : (script >>= f).Asks P := by
  change (script.bind f).Asks P
  induction script with
  | done a => exact later a
  | ask request next ih => exact ⟨first.1, fun answer => ih answer (first.2 answer)⟩

theorem andThen {script : Script (Except ε α)} {f : α → ExceptT ε Script β}
    (first : script.Asks P) (later : ∀ a, (f a).run.Asks P) :
    (ExceptT.mk script >>= f).run.Asks P := by
  refine bind first fun outcome => ?_
  cases outcome with
  | ok a => exact later a
  | error fault => trivial

theorem weaken {script : Script α} (asks : script.Asks P) (h : ∀ request, P request → P' request) :
    script.Asks P' := by
  induction script with
  | done a => trivial
  | ask request next ih => exact ⟨h _ asks.1, fun answer => ih answer (asks.2 answer)⟩

theorem of_takes {script : Script α} {turns : List Turn} {result : α} (asks : script.Asks P)
    (takes : script.Takes turns result) : ∀ turn ∈ turns, P turn.request := by
  induction takes with
  | done result => exact fun turn member => nomatch member
  | ask later ih => exact List.forall_mem_cons.mpr ⟨asks.1, ih (asks.2 _)⟩

end Asks

end Script

namespace Pool

def turn? (pool : Pool α) (i : Nat) : Option Turn :=
  match pool.scripts[i]? with
  | some (.ask request _) => some ⟨request, pool.tree⟩
  | _ => none

/-- The turns that a script takes in the course of a schedule. -/
def turns (i : Nat) : Pool α → List Nat → List Turn
  | _, [] => []
  | pool, j :: schedule =>
    (if j = i then (pool.turn? i).toList else []) ++ turns i (pool.step j) schedule

theorem step_of_turn?_none {pool : Pool α} {i : Nat} (h : pool.turn? i = none) :
    pool.step i = pool := by
  refine step_of_done fun request next there => ?_
  rw [turn?, there] at h
  cases h

theorem tree_step_of_turn? {pool : Pool α} {i : Nat} {turn : Turn} (h : pool.turn? i = some turn) :
    turn.tree = pool.tree ∧ (pool.step i).tree = (turn.tree.answer turn.request).2 := by
  rw [turn?] at h
  split at h
  · rename_i request next there
    obtain rfl := Option.some.inj h
    rw [step_of_ask there]
    exact ⟨rfl, rfl⟩
  · cases h

theorem scripts_step_of_ne {pool : Pool α} {i j : Nat} (other : j ≠ i) :
    (pool.step j).scripts[i]? = pool.scripts[i]? := by
  unfold step
  split
  · exact List.getElem?_set_ne other
  · rfl

/-- A script that is done after a schedule has come to its result by its own turns. -/
theorem takes_turns {pool : Pool α} {schedule : List Nat} {i : Nat} {script : Script α} {result : α}
    (here : pool.scripts[i]? = some script)
    (finished : (pool.run schedule).scripts[i]? = some (.done result)) :
    script.Takes (pool.turns i schedule) result := by
  induction schedule generalizing pool script with
  | nil =>
    obtain rfl := Option.some.inj (here.symm.trans finished)
    exact .done result
  | cons j schedule ih =>
    rw [turns]
    split_ifs with own
    · subst own
      cases script with
      | done last =>
        have none : pool.turn? j = none := by rw [turn?, here]
        rw [none, step_of_turn?_none none]
        refine ih here ?_
        rwa [run, List.foldl_cons, step_of_turn?_none none] at finished
      | ask request next =>
        have there : (pool.step j).scripts[j]? = some (next (pool.tree.answer request).1) := by
          rw [step_of_ask here]
          exact List.getElem?_set_self (List.getElem?_eq_some_iff.mp here).1
        rw [turn?, here]
        exact .ask (ih there finished)
    · exact ih ((scripts_step_of_ne own).trans here) finished

/-- The last turn of a script cuts the schedule: behind it, the script takes no turn any more. -/
theorem exists_last_turn {pool : Pool α} {schedule : List Nat} {i : Nat} {before : List Turn}
    {turn : Turn} (h : pool.turns i schedule = before ++ [turn]) :
    ∃ first rest, schedule = first ++ i :: rest ∧ (pool.run first).turn? i = some turn ∧
      ((pool.run first).step i).turns i rest = [] := by
  induction schedule generalizing pool before with
  | nil => cases before <;> cases h
  | cons j schedule ih =>
    have later : ∀ before, (pool.step j).turns i schedule = before ++ [turn] →
        ∃ first rest, j :: schedule = first ++ i :: rest ∧
          (pool.run first).turn? i = some turn ∧ ((pool.run first).step i).turns i rest = [] := by
      intro before h
      obtain ⟨first, rest, rfl, found, silent⟩ := ih h
      exact ⟨j :: first, rest, rfl, found, silent⟩
    rw [turns] at h
    split_ifs at h with own
    · subst own
      cases found : pool.turn? j with
      | none =>
        rw [found] at h
        exact later before h
      | some other =>
        rw [found, Option.toList_some, List.singleton_append] at h
        cases before with
        | nil =>
          obtain ⟨rfl, silent⟩ := List.cons.inj h
          exact ⟨[], schedule, rfl, found, silent⟩
        | cons earlier before => exact later before (List.cons.inj h).2
    · exact later before h

/-- Every request of a script of the pool is of the kind of that script. -/
def Asks (P : Nat → Request → Prop) (pool : Pool α) : Prop :=
  ∀ i (script : Script α), pool.scripts[i]? = some script → script.Asks (P i)

section

variable {P : Nat → Request → Prop} {pool : Pool α}

theorem asks_step (asks : pool.Asks P) (i : Nat) : (pool.step i).Asks P := by
  obtain same | ⟨request, next, there, stepped⟩ := pool.step_cases i
  · rwa [same]
  intro j script found
  by_cases own : i = j
  · subst own
    rw [stepped, List.getElem?_set_self (List.getElem?_eq_some_iff.mp there).1] at found
    obtain rfl := Option.some.inj found
    exact (asks i _ there).2 _
  · rw [scripts_step_of_ne own] at found
    exact asks j script found

theorem asks_run (asks : pool.Asks P) (schedule : List Nat) : (pool.run schedule).Asks P := by
  induction schedule generalizing pool with
  | nil => exact asks
  | cons i schedule ih => exact ih (asks_step asks i)

theorem asks_of_turn? (asks : pool.Asks P) {i : Nat} {turn : Turn} (h : pool.turn? i = some turn) :
    P i turn.request := by
  rw [turn?] at h
  split at h
  · rename_i request next there
    obtain rfl := Option.some.inj h
    exact (asks i _ there).1
  · cases h

/-- While a script takes no turn, what the requests of the others keep up goes on to hold. -/
theorem holds_while_silent {M : Tree → Prop} {i : Nat} (asks : pool.Asks P)
    (keeps : ∀ j tree request, j ≠ i → P j request → M tree → M (tree.answer request).2)
    {schedule : List Nat} (silent : pool.turns i schedule = []) (here : M pool.tree) :
    M (pool.run schedule).tree := by
  induction schedule generalizing pool with
  | nil => exact here
  | cons j schedule ih =>
    obtain ⟨now, later⟩ := List.append_eq_nil_iff.mp silent
    refine ih (asks_step asks j) later ?_
    cases found : pool.turn? j with
    | none => rwa [step_of_turn?_none found]
    | some turn =>
      have other : j ≠ i := by
        rintro rfl
        rw [if_pos rfl, found] at now
        cases now
      obtain ⟨same, stepped⟩ := tree_step_of_turn? found
      rw [stepped, same]
      exact keeps j pool.tree turn.request other (asks_of_turn? asks found) here

end

end Pool

end TableMigration.File
