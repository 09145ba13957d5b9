import Mathlib.Data.String.Basic
import TableMigration.Proofs.File.Places

/-!
# The directories above a path

Each path that is to be made before another goes the same way less far (`isChain_ancestors`), and can
be followed if that one can (`checkPath_ancestors`).
-/

namespace TableMigration.File

namespace Path

/-- The same steps without some that stay where they are. -/
inductive SameWay : List String → List String → Prop where
  | nil : SameWay [] []
  | keep (name : String) {long short : List String} : SameWay long short →
      SameWay (name :: long) (name :: short)
  | skip {long short : List String} : SameWay long short → SameWay ("." :: long) short

namespace SameWay

theorem refl (names : List String) : SameWay names names := by
  induction names with
  | nil => exact .nil
  | cons name names ih => exact .keep name ih

theorem filter (names : List String) : SameWay names (names.filter (· != ".")) := by
  induction names with
  | nil => exact .nil
  | cons name names ih =>
    rw [List.filter_cons]
    by_cases stays : name = "."
    · subst stays
      exact .skip ih
    · rw [if_pos (by simpa using stays)]
      exact .keep name ih

theorem sublist {long short : List String} (h : SameWay long short) : short.Sublist long := by
  induction h with
  | nil => exact .slnil
  | keep name _ ih => exact ih.cons_cons name
  | skip _ ih => exact ih.cons "."

theorem append {long before after : List String} (h : SameWay long (before ++ after)) :
    ∃ first last, long = first ++ last ∧ SameWay first before ∧ SameWay last after := by
  generalize whole : before ++ after = short at h
  induction h generalizing before with
  | nil =>
    obtain ⟨rfl, rfl⟩ := List.append_eq_nil_iff.mp whole
    exact ⟨[], [], rfl, .nil, .nil⟩
  | @keep name long short same ih =>
    cases before with
    | nil =>
      refine ⟨[], name :: long, rfl, .nil, ?_⟩
      rw [← List.nil_append after, whole]
      exact .keep name same
    | cons _ before =>
      obtain ⟨rfl, rest⟩ := List.cons.inj whole
      obtain ⟨first, last, rfl, sameFirst, sameLast⟩ := ih rest
      exact ⟨_ :: first, last, rfl, .keep _ sameFirst, sameLast⟩
  | skip _ ih =>
    obtain ⟨first, last, rfl, sameFirst, sameLast⟩ := ih whole
    exact ⟨"." :: first, last, rfl, .skip sameFirst, sameLast⟩

end SameWay

theorem sameWay_movingSteps (path : String) : SameWay (steps path) (movingSteps path) := by
  rw [movingSteps]
  rcases steps path with - | ⟨first, rest⟩
  · exact .nil
  · dsimp only
    split_ifs with stays
    · rw [Bool.and_eq_true, beq_iff_eq] at stays
      rw [stays.1]
      exact .skip (.filter rest)
    · exact .keep first (.filter rest)

/-- The second path goes the way of the first, but not to its end. -/
structure Above (path upper : String) : Prop where
  absolute : isAbsolute upper = isAbsolute path
  steps : ∃ before after, after ≠ [] ∧ steps path = before ++ after ∧ SameWay before (steps upper)

theorem isStep_of_mem_movingSteps {path name : String} (h : name ∈ movingSteps path) : IsStep name :=
  isStep_of_mem_steps ((sameWay_movingSteps path).sublist.subset h)

theorem above_ofSteps {path : String} {names : List String} {name : String}
    (way : SameWay (Path.steps path) (names ++ [name])) (h : ∀ other ∈ names, IsStep other) :
    Above path (ofSteps (isAbsolute path) names) := by
  obtain ⟨before, after, same, first, last⟩ := way.append
  refine ⟨isAbsolute_ofSteps h _, before, after, ?_, same, ?_⟩
  · rintro rfl
    cases last
  · rwa [steps_ofSteps h]

theorem isChain_leadingTo {absolute : Bool} {names : List String} {path : String}
    (way : SameWay (Path.steps path) (names.reverse)) (h : ∀ name ∈ names, IsStep name)
    (same : isAbsolute path = absolute) :
    (path :: (leadingTo absolute names).drop 1).IsChain Above := by
  induction names generalizing path with
  | nil =>
    rw [leadingTo]
    split_ifs <;> exact .singleton path
  | cons name names ih =>
    rw [List.forall_mem_cons] at h
    rw [leadingTo, List.drop_succ_cons, List.drop_zero]
    rw [List.reverse_cons] at way
    have proper : ∀ other ∈ names.reverse, IsStep other := fun other member =>
      h.2 other (List.mem_reverse.mp member)
    -- The last step is dropped, and what is left is the next path.
    have next := above_ofSteps way proper
    have steps := steps_ofSteps proper absolute
    have start := isAbsolute_ofSteps proper absolute
    rw [same] at next
    cases names with
    | nil =>
      rw [leadingTo]
      split_ifs with given
      · refine .cons_cons ?_ (.singleton _)
        rwa [given] at next
      · exact .singleton path
    | cons name' names =>
      refine .cons_cons next ?_
      have rest := ih (by rw [steps]; exact .refl _) h.2 start
      rwa [leadingTo, List.drop_succ_cons, List.drop_zero] at rest

/-- Each path to be made comes before the paths on its way. -/
theorem isChain_ancestors (path : String) : (ancestors path).IsChain Above := by
  rw [ancestors]
  split_ifs
  · exact .nil
  · refine isChain_leadingTo ?_ (fun name member => ?_) rfl
    · rw [List.reverse_reverse]
      exact sameWay_movingSteps path
    · exact isStep_of_mem_movingSteps (List.mem_reverse.mp member)

/-! ### Paths that can be followed -/

theorem intercalate_sublist (separator : List Char) {few many : List (List Char)}
    (h : few.Sublist many) : (separator.intercalate few).Sublist (separator.intercalate many) := by
  induction h with
  | slnil => exact .refl _
  | @cons few many piece h ih =>
    cases many with
    | nil =>
      rw [List.sublist_nil.mp h]
      exact List.nil_sublist _
    | cons next many =>
      rw [List.intercalate_cons_cons]
      exact ih.trans (List.sublist_append_right _ _)
  | @cons_cons few many piece h ih =>
    cases many with
    | nil =>
      rw [List.sublist_nil.mp h]
    | cons next many =>
      rw [List.intercalate_cons_cons, List.append_assoc]
      cases few with
      | nil => simp
      | cons other few =>
        rw [List.intercalate_cons_cons, List.append_assoc]
        exact ((List.Sublist.refl _).append ih).append_left _

/-- A path along some of the steps is the path with some characters left out. -/
theorem ofSteps_sublist {path : String} {names : List String} (h : names.Sublist (steps path)) :
    (ofSteps (isAbsolute path) names).toList.Sublist path.toList := by
  have pieces : ∀ text : List Char,
      (List.map String.toList (((text.splitOn '/').filter (!·.isEmpty)).map String.ofList)).Sublist
        (text.splitOn '/') := by
    intro text
    rw [List.map_map, List.map_congr_left (g := id) (fun piece _ => by simp), List.map_id]
    exact List.filter_sublist
  have joined := intercalate_sublist ['/'] ((h.map String.toList).trans (pieces _))
  rw [List.intercalate_splitOn] at joined
  rcases absolute : isAbsolute path with - | -
  · simpa [ofSteps, String.toList_intercalate] using joined
  · rw [isAbsolute, beq_iff_eq] at absolute
    obtain ⟨rest, shape⟩ := List.head?_eq_some_iff.mp absolute
    rw [steps, shape, ← List.nil_append ('/' :: rest), List.splitOn_append_cons_self,
      List.filter_append, List.map_append] at h
    have joined := intercalate_sublist ['/']
      (((h : names.Sublist _).map String.toList).trans (pieces rest))
    rw [List.intercalate_splitOn] at joined
    rw [shape, ofSteps, if_pos rfl, String.toList_append, String.toList_intercalate]
    exact joined.cons_cons '/'

theorem mem_leadingTo {absolute : Bool} {names : List String} {path : String}
    (h : path ∈ leadingTo absolute names) :
    ∃ some, path = ofSteps absolute some ∧ some.Sublist names.reverse ∧
      (some ≠ [] ∨ absolute = true) := by
  induction names with
  | nil =>
    rw [leadingTo] at h
    split_ifs at h with given
    · obtain rfl := List.mem_singleton.mp h
      exact ⟨[], by rw [given]; rfl, .slnil, .inr given⟩
    · cases h
  | cons name names ih =>
    rw [leadingTo] at h
    rcases List.mem_cons.mp h with rfl | later
    · exact ⟨_, rfl, .refl _, .inl (by simp)⟩
    · obtain ⟨some, same, sub, given⟩ := ih later
      rw [List.reverse_cons]
      exact ⟨some, same, sub.trans (List.sublist_append_left _ _), given⟩

theorem mem_ancestors {path upper : String} (h : upper ∈ ancestors path) :
    upper = path ∨ ∃ names, upper = ofSteps (isAbsolute path) names ∧ names.Sublist (steps path) ∧
      (names ≠ [] ∨ isAbsolute path = true) := by
  rw [ancestors] at h
  split_ifs at h
  · cases h
  rcases List.mem_cons.mp h with rfl | later
  · exact .inl rfl
  · obtain ⟨names, rfl, sub, given⟩ := mem_leadingTo (List.mem_of_mem_drop later)
    rw [List.reverse_reverse] at sub
    exact .inr ⟨names, rfl, sub.trans (sameWay_movingSteps path).sublist, given⟩

theorem steps_subset_of_mem_ancestors {path upper : String} (h : upper ∈ ancestors path) :
    steps upper ⊆ steps path := by
  rcases mem_ancestors h with rfl | ⟨names, rfl, sub, -⟩
  · exact List.Subset.refl _
  · rw [steps_ofSteps fun name member => isStep_of_mem_steps (sub.subset member)]
    exact sub.subset

end Path

namespace Tree

theorem utf8Len_le_of_sublist {few many : List Char} (h : few.Sublist many) :
    String.utf8Len few ≤ String.utf8Len many := by
  induction h with
  | slnil => exact Nat.le_refl _
  | cons c _ ih => exact Nat.le_trans ih (by simp [String.utf8Len])
  | cons_cons c _ ih => simpa [String.utf8Len] using ih

theorem checkPath_of_sublist {path shorter : String} (sub : shorter.toList.Sublist path.toList)
    (nonempty : shorter ≠ "") (h : checkPath path = .ok ()) : checkPath shorter = .ok () := by
  have size : shorter.utf8ByteSize ≤ path.utf8ByteSize := by
    rw [← String.ofList_toList (s := shorter), ← String.ofList_toList (s := path),
      String.utf8ByteSize_ofList, String.utf8ByteSize_ofList]
    exact utf8Len_le_of_sublist sub
  unfold checkPath at h ⊢
  split_ifs at h with nul empty long
  rw [if_neg, if_neg nonempty, if_neg (by omega)]
  rw [List.any_eq_true] at nul ⊢
  exact fun ⟨c, member, zero⟩ => nul ⟨c, sub.subset member, zero⟩

theorem checkPath_ancestors {path upper : String} (h : checkPath path = .ok ())
    (member : upper ∈ Path.ancestors path) : checkPath upper = .ok () := by
  rcases Path.mem_ancestors member with rfl | ⟨names, rfl, sub, given⟩
  · exact h
  refine checkPath_of_sublist (Path.ofSteps_sublist sub) (fun empty => ?_) h
  rcases given with given | given
  · have none := Path.steps_ofSteps (fun name inside => Path.isStep_of_mem_steps (sub.subset inside))
      (Path.isAbsolute path)
    rw [empty] at none
    exact given none.symm
  · rw [given, Path.ofSteps, if_pos rfl] at empty
    simpa using congrArg String.toList empty

end Tree

end TableMigration.File
