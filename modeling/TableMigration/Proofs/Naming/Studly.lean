import TableMigration.Naming
import TableMigration.Proofs.Text.Casing
import TableMigration.Proofs.Text.OneLine

/-!
# Table names as one word

A table name is cut at its separators and every piece gets a capital (`toList_studly`). So the word
for a name of several words is put together from the words for each, and separators leave no trace
(`studly_separated`).
-/

namespace TableMigration.Naming

/-- A character between the words of a table name. -/
def isSeparator (c : Char) : Bool :=
  isJoint c || Text.isBlank c

/-! ### Cutting at separators -/

/-- The pieces of a name between its separators, each with a capital. -/
def capitalized (s : List Char) : List Char :=
  (s.splitOnP isSeparator).flatMap Text.capitalize

theorem isBlank_spaced (c : Char) :
    Text.isBlank (if isJoint c then ' ' else c) = isSeparator c := by
  rw [isSeparator]
  cases joint : isJoint c
  · rfl
  · exact (by decide : Text.isBlank ' ' = true)

theorem splitOnP_spaced (s : List Char) :
    (s.map fun c => if isJoint c then ' ' else c).splitOnP Text.isBlank =
      s.splitOnP isSeparator := by
  induction s with
  | nil => rfl
  | cons c rest ih =>
    rw [List.map_cons, List.splitOnP_cons_eq_if_modifyHead, List.splitOnP_cons_eq_if_modifyHead,
      isBlank_spaced, ih]
    cases separator : isSeparator c with
    | true => rfl
    | false =>
      have plain : isJoint c = false := (Bool.or_eq_false_iff.mp separator).1
      simp only [plain, Bool.false_eq_true, if_false]

theorem flatMap_capitalize_filter (pieces : List (List Char)) :
    (pieces.filter (!·.isEmpty)).flatMap Text.capitalize = pieces.flatMap Text.capitalize := by
  induction pieces with
  | nil => rfl
  | cons piece pieces ih =>
    cases piece with
    | nil => exact ih
    | cons c rest => exact congrArg (Text.capitalize (c :: rest) ++ ·) ih

theorem toList_studly (table : String) : (studly table).toList = capitalized table.toList := by
  rw [studly, String.toList_ofList, Text.words, flatMap_capitalize_filter, splitOnP_spaced,
    capitalized]

/-! ### Words and separators -/

theorem capitalized_nil : capitalized [] = [] := rfl

/-- A separator anywhere in a name cuts it in two. -/
theorem capitalized_append_cons (a b : List Char) {s : Char} (h : isSeparator s = true) :
    capitalized (a ++ s :: b) = capitalized a ++ capitalized b := by
  rw [capitalized, List.splitOnP_append_cons a b h, List.flatMap_append, capitalized, capitalized]

theorem capitalized_word {word : List Char} (h : ∀ c ∈ word, isSeparator c = false) :
    capitalized word = Text.capitalize word := by
  rw [capitalized, List.splitOnP_eq_singleton h, List.flatMap_singleton]

theorem capitalized_run_append {run : List Char} (h : ∀ c ∈ run, isSeparator c = true)
    (b : List Char) : capitalized (run ++ b) = capitalized b := by
  induction run with
  | nil => rfl
  | cons s run ih =>
    have cut := capitalized_append_cons [] (run ++ b) (h s List.mem_cons_self)
    rw [List.nil_append, capitalized_nil, List.nil_append] at cut
    rw [List.cons_append, cut, ih fun c member => h c (List.mem_cons_of_mem _ member)]

/-- A run of separators cuts a name like a single one. -/
theorem capitalized_append_run_append (a b : List Char) {run : List Char} (nonempty : run ≠ [])
    (h : ∀ c ∈ run, isSeparator c = true) :
    capitalized (a ++ (run ++ b)) = capitalized a ++ capitalized b := by
  obtain ⟨s, run, rfl⟩ := List.exists_cons_of_ne_nil nonempty
  have others : ∀ c ∈ run, isSeparator c = true := fun c member =>
    h c (List.mem_cons_of_mem _ member)
  rw [List.cons_append, capitalized_append_cons a _ (h s List.mem_cons_self),
    capitalized_run_append others]

theorem capitalized_append_run (a : List Char) {run : List Char}
    (h : ∀ c ∈ run, isSeparator c = true) : capitalized (a ++ run) = capitalized a := by
  by_cases empty : run = []
  · rw [empty, List.append_nil]
  · have cut := capitalized_append_run_append a [] empty h
    rwa [List.append_nil, capitalized_nil, List.append_nil] at cut

/-! ### No separator in the word -/

def separatorCodes : List Nat :=
  0x2D :: 0x5F :: Text.blankCodes

theorem toNat_mem_separatorCodes {c : Char} (h : isSeparator c = true) :
    c.toNat ∈ separatorCodes := by
  rw [isSeparator, isJoint, Bool.or_eq_true, Bool.or_eq_true, beq_iff_eq, beq_iff_eq] at h
  rcases h with (rfl | rfl) | blank
  · decide
  · decide
  · exact List.mem_cons_of_mem _ (List.mem_cons_of_mem _ (Text.toNat_mem_blankCodes blank))

theorem not_separator_of_image? {span : Text.CaseSpan} {code image : Nat}
    (apart : ∀ n ∈ separatorCodes,
      (n : Int) < span.first + span.shift ∨ span.last + span.shift < n)
    (h : span.image? code = some image) : isSeparator (Char.ofNat image) = false := by
  rw [← Bool.not_eq_true]
  intro separator
  have value := toNat_mem_separatorCodes separator
  -- A number beyond the code points would stand for the character zero.
  have same : (Char.ofNat image).toNat = image := by
    rw [Char.ofNat]
    split
    · rfl
    · rename_i invalid
      rw [Char.ofNat, dif_neg invalid] at value
      exact absurd value (by decide)
  rw [Text.CaseSpan.image?] at h
  split at h
  · rename_i inside
    have shifted := Option.some.inj h
    rw [same] at value
    have positive : 0 < image := (by decide : ∀ n ∈ separatorCodes, 0 < n) image value
    have outside := apart image value
    omega
  · cases h

theorem not_separator_of_mem_upperChar {c d : Char} (h : isSeparator c = false)
    (member : d ∈ Text.upperChar c) : isSeparator d = false := by
  -- A capital is an ASCII letter, one of several characters, or moved by a span.
  rw [Text.upperChar] at member
  split at member
  · rename_i ascii
    obtain rfl := List.mem_singleton.mp member
    exact Text.forall_ascii (P := fun c => isSeparator c = false → isSeparator c.toUpper = false)
      (by decide) ascii h
  · split at member
    · rename_i form found
      have forms : (Text.upperExpansions.all fun entry => entry.2.all (!isSeparator ·)) = true := by
        decide +kernel
      obtain ⟨before, after, split, -⟩ := List.lookup_eq_some_iff.mp found
      have entry : (c, form) ∈ Text.upperExpansions := by
        rw [split]
        simp
      simpa using List.all_eq_true.mp (List.all_eq_true.mp forms _ entry) d member
    · have apart : ∀ span ∈ Text.wideUpperSpans, ∀ n ∈ separatorCodes,
          (n : Int) < span.first + span.shift ∨ span.last + span.shift < n := by
        decide +kernel
      obtain rfl := List.mem_singleton.mp member
      rw [Text.CaseSpan.map]
      cases found : Text.wideUpperSpans.findSome? (·.image? c.toNat) with
      | none => exact h
      | some code =>
        obtain ⟨span, member, image⟩ := List.exists_of_findSome?_eq_some found
        exact not_separator_of_image? (apart span member) image

theorem not_separator_of_mem_capitalize {s : List Char} (h : ∀ c ∈ s, isSeparator c = false)
    {d : Char} (member : d ∈ Text.capitalize s) : isSeparator d = false := by
  cases s with
  | nil => cases member
  | cons c rest =>
    rcases List.mem_append.mp member with first | later
    · exact not_separator_of_mem_upperChar (h c List.mem_cons_self) first
    · exact h d (List.mem_cons_of_mem _ later)

theorem not_separator_of_mem_capitalized {s : List Char} {d : Char} (h : d ∈ capitalized s) :
    isSeparator d = false := by
  obtain ⟨piece, cut, member⟩ := List.mem_flatMap.mp h
  have kept : ∀ c ∈ piece, isSeparator c = false := fun c inside =>
    (Text.of_mem_splitOnP cut c inside).2
  exact not_separator_of_mem_capitalize kept member

/-! ### Names of several words -/

/-- A text of separators only. -/
def Separates (s : String) : Prop :=
  ∀ c ∈ s.toList, isSeparator c = true

/-- The word for a name is put together from the words between its separators: a separator cuts the
name in two, a name without separators gets a capital in front and is kept behind it, no separator
is left in the word, and separators before, behind and beside others do not count. -/
theorem studly_separated :
    (∀ (a b : String) (s : Char), isSeparator s = true →
        studly (a ++ String.singleton s ++ b) = studly a ++ studly b) ∧
      studly "" = "" ∧
      (∀ (c : Char) (rest : List Char), (∀ d ∈ c :: rest, isSeparator d = false) →
        studly (String.ofList (c :: rest)) = String.ofList (Text.upperChar c ++ rest)) ∧
      (∀ (table : String), ∀ d ∈ (studly table).toList, isSeparator d = false) ∧
      (∀ front name back : String, Separates front → Separates back →
        studly (front ++ name ++ back) = studly name) ∧
      ∀ a run b : String, Separates run → run ≠ "" →
        studly (a ++ run ++ b) = studly a ++ studly b := by
  simp only [← String.toList_inj, String.toList_append, toList_studly, String.toList_singleton,
    String.toList_ofList, List.append_assoc, List.singleton_append]
  refine ⟨?_, rfl, ?_, ?_, ?_, ?_⟩
  · intro a b s separator
    exact capitalized_append_cons _ _ separator
  · intro c rest word
    exact capitalized_word word
  · intro table d member
    exact not_separator_of_mem_capitalized member
  · intro front name back before behind
    rw [capitalized_run_append before, capitalized_append_run _ behind]
  · intro a run b separators nonempty
    exact capitalized_append_run_append _ _ (nonempty ∘ String.toList_eq_nil_iff.mp) separators

theorem studly_separated_roles :
    (isSeparator '_' = true ∧
        studly ("user" ++ String.singleton '_' ++ "roles") = studly "user" ++ studly "roles") ∧
      ((∀ d ∈ ['ß', 'e', 'n'], isSeparator d = false) ∧
        studly (String.ofList ['ß', 'e', 'n']) = String.ofList ['S', 'S', 'e', 'n']) ∧
      (Separates "\t-" ∧ Separates "__" ∧ studly ("\t-" ++ "oAuth" ++ "__") = studly "oAuth") ∧
      Separates "_- " ∧ "_- " ≠ "" ∧
        studly ("user" ++ "_- " ++ "roles") = studly "user" ++ studly "roles" := by
  obtain ⟨cut, -, word, -, around, run⟩ := studly_separated
  have letters : ∀ d ∈ ['ß', 'e', 'n'], isSeparator d = false := by
    simpa using List.all_eq_true.mp (by decide : ['ß', 'e', 'n'].all (!isSeparator ·) = true)
  have before : Separates "\t-" := List.all_eq_true.mp (by decide)
  have behind : Separates "__" := List.all_eq_true.mp (by decide)
  have between : Separates "_- " := List.all_eq_true.mp (by decide)
  exact ⟨⟨by decide, cut _ _ _ (by decide)⟩, ⟨letters, word _ _ letters⟩,
    ⟨before, behind, around _ _ _ before behind⟩, between, by decide, run _ _ _ between (by decide)⟩

end TableMigration.Naming
