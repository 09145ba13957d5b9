import TableMigration.Proofs.Text.Casing
import TableMigration.Proofs.Text.Trim

/-!
# Texts on one line

Texts without a line feed. Putting such texts together, cutting them and lowering them gives such
texts (`OneLine.append`, `OneLine.trim`, `OneLine.lower`).
-/

namespace TableMigration.Text

/-- Pieces of a text are made of its elements, without those it is cut at. -/
theorem of_mem_splitOnP {α : Type} {p : α → Bool} {s piece : List α} (h : piece ∈ s.splitOnP p) :
    ∀ b ∈ piece, b ∈ s ∧ p b = false := by
  induction s generalizing piece with
  | nil =>
    rw [List.splitOnP_nil, List.mem_singleton] at h
    simp [h]
  | cons c rest ih =>
    intro b member
    rw [List.splitOnP_cons_eq_if_modifyHead] at h
    obtain ⟨first, pieces, cut⟩ := List.exists_cons_of_ne_nil (List.splitOnP_ne_nil p rest)
    have later : ∀ piece ∈ rest.splitOnP p, b ∈ piece → b ∈ c :: rest ∧ p b = false :=
      fun piece old inside => ⟨List.mem_cons_of_mem _ (ih old b inside).1, (ih old b inside).2⟩
    split at h
    · rcases List.mem_cons.mp h with rfl | old
      · cases member
      · exact later piece old member
    · rename_i other
      rw [cut, List.modifyHead_cons] at h
      rcases List.mem_cons.mp h with rfl | old
      · rcases List.mem_cons.mp member with rfl | inside
        · exact ⟨List.mem_cons_self, by simpa using other⟩
        · exact later first (cut ▸ List.mem_cons_self) inside
      · exact later piece (cut ▸ List.mem_cons_of_mem _ old) member

theorem of_mem_splitOn {α : Type} [BEq α] [LawfulBEq α] {a : α} {s piece : List α}
    (h : piece ∈ s.splitOn a) : ∀ b ∈ piece, b ∈ s ∧ b ≠ a := by
  rw [List.splitOn_eq_splitOnP] at h
  intro b member
  obtain ⟨inside, other⟩ := of_mem_splitOnP h b member
  exact ⟨inside, by simpa using other⟩

/-- A text without a line feed. -/
def OneLine (s : String) : Prop :=
  '\n' ∉ s.toList

instance (s : String) : Decidable (OneLine s) :=
  inferInstanceAs (Decidable ('\n' ∉ s.toList))

theorem oneLine_ofList {s : List Char} : OneLine (String.ofList s) ↔ '\n' ∉ s := by
  rw [OneLine, String.toList_ofList]

theorem oneLine_append {s t : String} : OneLine (s ++ t) ↔ OneLine s ∧ OneLine t := by
  rw [OneLine, OneLine, OneLine, String.toList_append, List.mem_append, not_or]

theorem OneLine.append {s t : String} (hs : OneLine s) (ht : OneLine t) : OneLine (s ++ t) :=
  oneLine_append.mpr ⟨hs, ht⟩

theorem OneLine.trim {s : String} (h : OneLine s) : OneLine (String.ofList (trim s.toList)) :=
  oneLine_ofList.mpr fun member => h (mem_of_mem_trim member)

theorem OneLine.lower {s : String} (h : OneLine s) : OneLine (lower s) :=
  not_mem_lower (by decide) h

theorem OneLine.intercalate {separator : String} (hs : OneLine separator) {items : List String}
    (h : ∀ item ∈ items, OneLine item) : OneLine (separator.intercalate items) := by
  induction items with
  | nil => rw [String.intercalate_nil]; decide
  | cons item items ih =>
    have rest := ih fun later member => h later (List.mem_cons_of_mem _ member)
    cases items with
    | nil => exact String.intercalate_singleton ▸ h item List.mem_cons_self
    | cons next items =>
      rw [String.intercalate_cons_of_ne_nil (List.cons_ne_nil next items)]
      exact ((h item List.mem_cons_self).append hs).append rest

end TableMigration.Text
