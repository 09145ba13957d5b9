import Mathlib.Data.List.Infix
import TableMigration.Template

/-!
# Filling templates in one scan

Filling looks for each mark on its own, takes the first one, and starts anew behind it. That comes
to one scan from the front, which asks at each place for the mark that starts there
(`fillText_eq`).
-/

namespace TableMigration

namespace Hole

/-- The hole whose mark a text starts with. -/
def ofStart? (s : List Char) : Option Hole :=
  all.find? fun hole => hole.mark.toList.isPrefixOf s

/-! ### The first mark -/

/-- Holes with what stands before their marks in a text, if they have any there. -/
def found (s : List Char) (holes : List Hole) : List (Nat × Hole) :=
  holes.filterMap fun hole => (Text.position? hole.mark.toList s).map fun before => (before, hole)

/-- A place with one more character before it. -/
def later (place : Nat × Hole) : Nat × Hole :=
  (place.1 + 1, place.2)

theorem earliest_later (places : List (Nat × Hole)) :
    earliest (places.map later) = (earliest places).map later := by
  induction places with
  | nil => rfl
  | cons place places ih =>
    rw [List.map_cons, earliest, ih, earliest]
    cases earliest places with
    | none => rfl
    | some other =>
      simp only [Option.map_some, later, Nat.add_lt_add_iff_right]
      split <;> rfl

theorem found_nil (holes : List Hole) : found [] holes = [] := by
  refine List.filterMap_eq_nil_iff.mpr fun hole _ => ?_
  have nonempty : hole.mark.toList.isEmpty = false := by
    cases hole <;> decide
  rw [Text.position?, nonempty]
  rfl

theorem first?_nil : first? [] = none := by
  change earliest (found [] all) = none
  rw [found_nil]
  rfl

/-- Where no mark starts, the first mark is that of the rest. -/
theorem first?_cons {c : Char} {s : List Char} (h : ofStart? (c :: s) = none) :
    first? (c :: s) = (first? s).map later := by
  have shifted : found (c :: s) all = (found s all).map later := by
    rw [found, found, List.map_filterMap]
    refine List.filterMap_congr fun hole member => ?_
    rw [Text.position?, if_neg (List.find?_eq_none.mp h hole member), Option.map_map, Option.map_map]
    rfl
  change earliest (found (c :: s) all) = _
  rw [shifted, earliest_later]
  rfl

/-- A mark at the very start is the first one. -/
theorem first?_of_ofStart? {s : List Char} {hole : Hole} (h : ofStart? s = some hole) :
    first? s = some (0, hole) := by
  suffices ∀ holes : List Hole, holes.find? (·.mark.toList.isPrefixOf s) = some hole →
      earliest (found s holes) = some (0, hole) from this all h
  intro holes listed
  induction holes with
  | nil => cases listed
  | cons other holes ih =>
    cases s with
    | nil =>
      have starts := List.find?_some h
      rw [List.isPrefixOf_iff_prefix, List.prefix_nil] at starts
      exact absurd hole.mark_pos (by rw [← String.length_toList, starts]; decide)
    | cons c s =>
      rw [List.find?_cons] at listed
      split at listed
      · rename_i starts
        obtain rfl := Option.some.inj listed
        rw [found, List.filterMap_cons, Text.position?, if_pos starts, Option.map_some]
        dsimp only
        rw [earliest]
        split
        · rw [if_neg (Nat.not_lt_zero _)]
        · rfl
      · rename_i starts
        -- The mark of the other hole comes later, or not at all.
        rw [found, List.filterMap_cons, Text.position?, if_neg (by simp [starts])]
        rcases Text.position? other.mark.toList s with - | before
        · exact ih listed
        · dsimp only [Option.map_some]
          rw [earliest, ← found, ih listed]
          exact if_pos (Nat.succ_pos before)

end Hole

namespace Template

/-! ### Filling -/

variable (value : Hole → List Char)

/-- Passes over `skip` characters, then fills every hole with its value. -/
def fillFrom : Nat → List Char → List Char
  | _, [] => []
  | skip + 1, _ :: rest => fillFrom skip rest
  | 0, c :: rest =>
    match Hole.ofStart? (c :: rest) with
    | some hole => value hole ++ fillFrom (hole.mark.length - 1) rest
    | none => c :: fillFrom 0 rest

theorem fillFrom_skip (skip : Nat) (s : List Char) :
    fillFrom value skip s = fillFrom value 0 (s.drop skip) := by
  induction skip generalizing s with
  | zero => rfl
  | succ skip ih =>
    cases s with
    | nil => rfl
    | cons c rest => rw [fillFrom, ih, List.drop_succ_cons]

theorem fillFrom_cons {c : Char} {s : List Char} (h : Hole.ofStart? (c :: s) = none) :
    fillFrom value 0 (c :: s) = c :: fillFrom value 0 s := by
  rw [fillFrom, h]

theorem fillFrom_start {c : Char} {s : List Char} {hole : Hole}
    (h : Hole.ofStart? (c :: s) = some hole) :
    fillFrom value 0 (c :: s) = value hole ++ fillFrom value 0 (s.drop (hole.mark.length - 1)) := by
  rw [fillFrom, h, ← fillFrom_skip]

theorem fillText_nil : fillText value [] = [] := by
  rw [fillText]

theorem fillText_start {c : Char} {s : List Char} {hole : Hole}
    (h : Hole.ofStart? (c :: s) = some hole) :
    fillText value (c :: s) = value hole ++ fillText value (s.drop (hole.mark.length - 1)) := by
  have behind : (c :: s).drop (0 + hole.mark.length) = s.drop (hole.mark.length - 1) := by
    obtain ⟨n, length⟩ := Nat.exists_eq_add_one_of_ne_zero hole.mark_pos.ne'
    rw [length, Nat.zero_add, List.drop_succ_cons, Nat.add_sub_cancel]
  rw [fillText, Hole.first?_of_ofStart? h]
  dsimp only
  rw [List.take_zero, List.nil_append, behind]

theorem fillText_cons {c : Char} {s : List Char} (h : Hole.ofStart? (c :: s) = none) :
    fillText value (c :: s) = c :: fillText value s := by
  rw [fillText, Hole.first?_cons h]
  cases s with
  | nil =>
    rw [Hole.first?_nil, fillText_nil]
    rfl
  | cons d s =>
    rw [fillText]
    rcases Hole.first? (d :: s) with - | ⟨before, hole⟩
    · rfl
    · dsimp only [Option.map_some, Hole.later]
      rw [List.take_succ_cons, Nat.add_right_comm, List.drop_succ_cons, List.cons_append]

/-- Looking for the first mark again and again comes to one scan. -/
theorem fillText_eq (s : List Char) : fillText value s = fillFrom value 0 s := by
  induction length : s.length using Nat.strong_induction_on generalizing s with
  | _ n ih =>
    cases s with
    | nil => exact fillText_nil value
    | cons c s =>
      subst length
      cases start : Hole.ofStart? (c :: s) with
      | some hole =>
        have shorter : (s.drop (hole.mark.length - 1)).length < (c :: s).length := by
          rw [List.length_drop, List.length_cons]
          omega
        rw [fillText_start value start, fillFrom_start value start, ih _ shorter _ rfl]
      | none =>
        rw [fillText_cons value start, fillFrom_cons value start,
          ih _ (Nat.lt_succ_self _) s rfl]

theorem fill_eq (template : Template) (value : Hole → String) :
    template.fill value =
      String.ofList (fillFrom (fun hole => (value hole).toList) 0 template.text.toList) := by
  rw [fill, fillText_eq]

end Template

end TableMigration
