import TableMigration.Proofs.Template.Scan

/-!
# Substitution in templates

Filling a template writes all values at once. `fill_simultaneous` says that the fill of a text comes
apart at every mark, whatever stands beside the mark and whatever the values are.
-/

namespace TableMigration

/-! ### Marks -/

theorem Hole.mem_all (hole : Hole) : hole ∈ Hole.all := by
  cases hole <;> decide

theorem Hole.mark_ne_nil (hole : Hole) : hole.mark.toList ≠ [] := by
  cases hole <;> decide

theorem Hole.eq_of_mark_prefix {p q : Hole} (h : p.mark.toList <+: q.mark.toList) : p = q := by
  have free : ∀ p ∈ Hole.all, ∀ q ∈ Hole.all,
      p.mark.toList.isPrefixOf q.mark.toList = true → p = q := by decide
  exact free p p.mem_all q q.mem_all (List.isPrefixOf_iff_prefix.mpr h)

/-- What remains of a mark after its first characters neither starts a mark nor starts with one. -/
theorem Hole.rest_of_mark_apart (p q : Hole) {n : Nat} (positive : 0 < n)
    (inside : n < q.mark.toList.length) :
    ¬q.mark.toList.drop n <+: p.mark.toList ∧ ¬p.mark.toList <+: q.mark.toList.drop n := by
  have apart : ∀ p ∈ Hole.all, ∀ q ∈ Hole.all, ∀ n < q.mark.toList.length, 0 < n →
      (q.mark.toList.drop n).isPrefixOf p.mark.toList = false ∧
        p.mark.toList.isPrefixOf (q.mark.toList.drop n) = false := by decide +kernel
  obtain ⟨first, second⟩ := apart p p.mem_all q q.mem_all n inside positive
  constructor
  · intro h
    rw [List.isPrefixOf_iff_prefix.mpr h] at first
    cases first
  · intro h
    rw [List.isPrefixOf_iff_prefix.mpr h] at second
    cases second

theorem Hole.mark_prefix_of_ofStart? {s : List Char} {hole : Hole}
    (h : Hole.ofStart? s = some hole) : hole.mark.toList <+: s := by
  have found : (hole.mark.toList.isPrefixOf s) = true :=
    List.find?_some (p := fun hole : Hole => hole.mark.toList.isPrefixOf s) h
  exact List.isPrefixOf_iff_prefix.mp found

theorem Hole.ofStart?_eq_some_iff {s : List Char} {hole : Hole} :
    Hole.ofStart? s = some hole ↔ hole.mark.toList <+: s := by
  refine ⟨Hole.mark_prefix_of_ofStart?, fun h => ?_⟩
  cases found : Hole.ofStart? s with
  | none =>
    have missed := List.find?_eq_none.mp found hole hole.mem_all
    exact absurd (List.isPrefixOf_iff_prefix.mpr h) missed
  | some other =>
    rcases List.prefix_or_prefix_of_prefix (Hole.mark_prefix_of_ofStart? found) h with first | first
    · rw [Hole.eq_of_mark_prefix first]
    · rw [Hole.eq_of_mark_prefix first]

theorem Hole.ofStart?_eq_none_iff {s : List Char} :
    Hole.ofStart? s = none ↔ ∀ hole : Hole, ¬hole.mark.toList <+: s := by
  constructor
  · intro h hole start
    rw [Hole.ofStart?_eq_some_iff.mpr start] at h
    cases h
  · intro h
    cases found : Hole.ofStart? s with
    | none => rfl
    | some hole => exact absurd (Hole.ofStart?_eq_some_iff.mp found) (h hole)

/-- A mark that starts before another one also ends before it. -/
theorem Hole.mark_prefix_of_append {p q : Hole} {a b : List Char} (nonempty : a ≠ [])
    (h : q.mark.toList <+: a ++ (p.mark.toList ++ b)) : q.mark.toList <+: a := by
  rcases List.prefix_or_prefix_of_prefix h (List.prefix_append a _) with within | ⟨rest, across⟩
  · exact within
  have start : rest <+: p.mark.toList ++ b := by
    rw [← across] at h
    exact (List.prefix_append_right_inj a).mp h
  by_cases ends : rest = []
  · rw [← across, ends, List.append_nil]
  -- What is left is an overlap: the rest of `q` would start `p`, or start with it.
  exfalso
  have dropped : q.mark.toList.drop a.length = rest := by
    rw [← across, List.drop_left]
  have inside : a.length < q.mark.toList.length := by
    have := List.length_pos_iff.mpr ends
    rw [← across, List.length_append]
    omega
  obtain ⟨notStart, notStarted⟩ :=
    Hole.rest_of_mark_apart p q (List.length_pos_iff.mpr nonempty) inside
  rw [dropped] at notStart notStarted
  rcases List.prefix_or_prefix_of_prefix start (List.prefix_append _ b) with shorter | longer
  · exact notStart shorter
  · exact notStarted longer

namespace Template

/-! ### Filling -/

variable (value : Hole → List Char)

theorem fillFrom_mark (hole : Hole) (s : List Char) :
    fillFrom value 0 (hole.mark.toList ++ s) = value hole ++ fillFrom value 0 s := by
  obtain ⟨c, rest, mark⟩ := List.exists_cons_of_ne_nil hole.mark_ne_nil
  have start : Hole.ofStart? (c :: (rest ++ s)) = some hole := by
    rw [Hole.ofStart?_eq_some_iff, mark]
    exact List.prefix_append (c :: rest) s
  have length : hole.mark.length - 1 = rest.length := by
    rw [← String.length_toList, mark]
    rfl
  rw [mark, List.cons_append, fillFrom, start]
  dsimp only
  rw [fillFrom_skip, length, List.drop_left]

/-- Filling comes apart at a mark. -/
theorem fillFrom_append_mark (hole : Hole) (a b : List Char) :
    fillFrom value 0 (a ++ (hole.mark.toList ++ b)) =
      fillFrom value 0 a ++ (value hole ++ fillFrom value 0 b) := by
  -- The text before the mark starts with a mark of its own, which the whole text starts with too,
  -- or with a plain character.
  induction length : a.length using Nat.strong_induction_on generalizing a with
  | _ n ih =>
    cases a with
    | nil => exact fillFrom_mark value hole b
    | cons c a =>
      cases found : Hole.ofStart? (c :: a) with
      | some first =>
        obtain ⟨rest, split⟩ := Hole.ofStart?_eq_some_iff.mp found
        have shorter : rest.length < n := by
          have := List.length_pos_iff.mpr first.mark_ne_nil
          rw [← length, ← split, List.length_append]
          omega
        rw [← split, List.append_assoc, fillFrom_mark, fillFrom_mark, ih _ shorter rest rfl,
          List.append_assoc]
      | none =>
        have plain : Hole.ofStart? (c :: (a ++ (hole.mark.toList ++ b))) = none := by
          rw [Hole.ofStart?_eq_none_iff] at found ⊢
          intro other start
          exact found other (Hole.mark_prefix_of_append (List.cons_ne_nil c a) start)
        have shorter : a.length < n := by
          rw [← length]
          exact Nat.lt_succ_self _
        rw [List.cons_append, fillFrom_cons value plain, fillFrom_cons value found,
          ih _ shorter a rfl]
        rfl

/-! ### Texts without marks -/

/-- No mark stands in the text. -/
def Unmarked (s : List Char) : Prop :=
  ∀ hole : Hole, ¬hole.mark.toList <:+: s

theorem unmarked_nil : Unmarked [] := by
  intro hole inside
  exact hole.mark_ne_nil (List.infix_nil.mp inside)

theorem unmarked_cons {c : Char} {s : List Char} :
    Unmarked (c :: s) ↔ Hole.ofStart? (c :: s) = none ∧ Unmarked s := by
  rw [Hole.ofStart?_eq_none_iff, Unmarked, Unmarked, ← forall_and]
  refine forall_congr' fun hole => ?_
  rw [List.infix_cons_iff, not_or]

theorem fillFrom_unmarked {s : List Char} (h : Unmarked s) : fillFrom value 0 s = s := by
  induction s with
  | nil => rfl
  | cons c s ih =>
    obtain ⟨plain, rest⟩ := unmarked_cons.mp h
    rw [fillFrom_cons value plain, ih rest]

theorem exists_first_mark {s : List Char} (h : ¬Unmarked s) :
    ∃ a hole b, s = a ++ (Hole.mark hole).toList ++ b ∧ Unmarked a := by
  induction s with
  | nil => exact absurd unmarked_nil h
  | cons c s ih =>
    -- A mark starts here, or not before the first one in the rest.
    cases found : Hole.ofStart? (c :: s) with
    | some hole =>
      obtain ⟨b, split⟩ := Hole.ofStart?_eq_some_iff.mp found
      exact ⟨[], hole, b, by rw [List.nil_append, split], unmarked_nil⟩
    | none =>
      rw [unmarked_cons, not_and] at h
      obtain ⟨a, hole, b, rfl, plain⟩ := ih (h found)
      refine ⟨c :: a, hole, b, rfl, unmarked_cons.mpr ⟨?_, plain⟩⟩
      rw [Hole.ofStart?_eq_none_iff] at found ⊢
      intro other start
      rw [List.append_assoc] at found
      exact found other (start.trans (List.prefix_append (c :: a) _))

/-! ### Whole templates -/

theorem fill_mark (value : Hole → String) (hole : Hole) (a b : String) :
    fill ⟨a ++ hole.mark ++ b⟩ value = fill ⟨a⟩ value ++ value hole ++ fill ⟨b⟩ value := by
  simp only [fill_eq, String.toList_append, fillFrom_append_mark, String.ofList_append,
    String.ofList_toList, String.append_assoc]

theorem fill_unmarked (value : Hole → String) {text : String} (h : Unmarked text.toList) :
    fill ⟨text⟩ value = text := by
  rw [fill_eq, fillFrom_unmarked _ h, String.ofList_toList]

/-- Plain texts with a hole after each, and a plain text at the end. -/
structure Outline where
  pieces : List (String × Hole)
  last : String

/-- The text of an outline with some text at each hole. -/
def Outline.text (outline : Outline) (value : Hole → String) : String :=
  String.join (outline.pieces.map fun piece => piece.1 ++ value piece.2) ++ outline.last

/-- The plain texts of an outline have no marks. -/
def Outline.Plain (outline : Outline) : Prop :=
  (∀ piece ∈ outline.pieces, Unmarked piece.1.toList) ∧ Unmarked outline.last.toList

/-- Every text has an outline, which does not depend on the values, and is filled by its outline. -/
theorem exists_outline (text : String) :
    ∃ outline : Outline, outline.Plain ∧ text = outline.text Hole.mark ∧
      ∀ value, fill ⟨text⟩ value = outline.text value := by
  induction length : text.length using Nat.strong_induction_on generalizing text with
  | _ n ih =>
    -- The text is cut at its first mark, and what is behind that is shorter.
    by_cases plain : Unmarked text.toList
    · refine ⟨⟨[], text⟩, ⟨by simp, plain⟩, by simp [Outline.text], fun value => ?_⟩
      rw [fill_unmarked value plain]
      simp [Outline.text]
    · obtain ⟨a, hole, b, split, before⟩ := exists_first_mark plain
      have cut : text = String.ofList a ++ hole.mark ++ String.ofList b := by
        rw [← String.ofList_toList (s := text), split]
        simp [String.ofList_append, String.append_assoc]
      have shorter : (String.ofList b).length < n := by
        have := List.length_pos_iff.mpr hole.mark_ne_nil
        rw [String.length_toList] at this
        rw [← length, cut, String.length_append, String.length_append]
        omega
      obtain ⟨rest, restPlain, restText, restFill⟩ := ih _ shorter (String.ofList b) rfl
      refine ⟨⟨(String.ofList a, hole) :: rest.pieces, rest.last⟩, ⟨?_, restPlain.2⟩, ?_, ?_⟩
      · intro piece member
        rcases List.mem_cons.mp member with rfl | later
        · simpa using before
        · exact restPlain.1 piece later
      · rw [cut, restText]
        simp [Outline.text, String.append_assoc]
      · intro value
        rw [cut, fill_mark, restFill, fill_unmarked value (by simpa using before)]
        simp [Outline.text, String.append_assoc]

/-- Filling is one pass that writes all values at once: a text without marks stays as it is, every
mark is replaced and hides no other across its ends, and what is put in is not looked at again. -/
theorem fill_simultaneous :
    (∀ (value : Hole → String) (text : String), Unmarked text.toList → fill ⟨text⟩ value = text) ∧
      (∀ (value : Hole → String) (hole : Hole) (a b : String),
        fill ⟨a ++ hole.mark ++ b⟩ value = fill ⟨a⟩ value ++ value hole ++ fill ⟨b⟩ value) ∧
      ∀ text : String, ∃ outline : Outline, outline.Plain ∧ text = outline.text Hole.mark ∧
        ∀ value, fill ⟨text⟩ value = outline.text value :=
  ⟨fun value _ => fill_unmarked value, fill_mark, exists_outline⟩

end Template

end TableMigration
