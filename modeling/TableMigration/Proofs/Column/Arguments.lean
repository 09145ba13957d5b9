import TableMigration.Proofs.Column.OneLine

/-!
# Arguments of type texts

What the arguments of a type text look like after they have been read, whatever the text was.
`separable_ofText?` says that they can be joined with commas, and `values_ofBody_join` that values
of that kind are read again from where they are joined.
-/

namespace TableMigration

/-! ### Stretches between commas -/

namespace Quoting

variable {quoting : Quoting} {s : List Char}

/-- What stands between the commas at which a text is cut. The first piece starts where the scan
stands, the others outside strings. -/
theorem exists_splitCommas (h : quoting.Closes s) :
    ∃ first others, splitCommas quoting s = first :: others ∧
      [','].intercalate (first :: others) = s ∧ quoting.Separates first ∧
      ∀ piece ∈ others, outside.Separates piece := by
  induction s generalizing quoting with
  | nil => exact ⟨[], [], rfl, rfl, ⟨⟨h.ends, trivial⟩, trivial⟩, by simp⟩
  | cons c rest ih =>
    obtain ⟨first, others, cut, joined, separates, all⟩ := ih ⟨h.ends, h.hides.2⟩
    rw [splitCommas]
    split
    · rename_i comma
      obtain ⟨rfl, rfl⟩ := comma
      refine ⟨[], first :: others, congrArg ([] :: ·) cut, ?_, ⟨⟨rfl, trivial⟩, trivial⟩,
        List.forall_mem_cons.mpr ⟨separates, all⟩⟩
      rw [List.intercalate_cons_cons, joined]
      rfl
    · rename_i apart
      refine ⟨c :: first, others, by rw [cut, consFirst], ?_,
        ⟨⟨separates.ends, h.hides.1, separates.hides⟩, apart, separates.commas⟩, all⟩
      rw [← joined]
      cases others <;> simp

theorem eq_outside_of_after (quote : '\'' ∉ s) (ends : quoting.after s = .outside) :
    quoting = .outside := by
  induction s generalizing quoting with
  | nil => exact ends
  | cons c rest ih =>
    rw [List.mem_cons, not_or] at quote
    have next := ih quote.2 ends
    cases quoting with
    | outside => rfl
    | inside =>
      rw [Quoting.next, if_neg (Ne.symm quote.1)] at next
      split at next <;> cases next
    | escaped => cases next

theorem Separates.trim (h : outside.Separates s) : outside.Separates (Text.trim s) := by
  obtain ⟨before, after, shape, hb, ha⟩ := Text.exists_trim s
  have noQuote : ∀ {blanks : List Char}, (∀ c ∈ blanks, Text.isBlank c = true) → '\'' ∉ blanks :=
    fun all member => absurd (all _ member) (by decide)
  have opened : outside.after before = .outside := after_plain (noQuote hb)
  have kept : ∀ mark, outside.Hides mark s → outside.Hides mark (Text.trim s) := by
    intro mark hides
    rw [shape, hides_append, opened, hides_append] at hides
    exact hides.2.1
  have ends := h.ends
  rw [shape, after_append, opened, after_append] at ends
  exact ⟨⟨eq_outside_of_after (noQuote ha) ends, kept _ h.hides⟩, kept _ h.commas⟩

end Quoting

namespace ColumnArgs

/-! ### Values that can be joined -/

/-- Values that can be told apart where they are joined with commas. A single value without a comma
may have blanks around it. -/
structure Separable (values : List String) : Prop where
  oneLine : ∀ value ∈ values, Text.OneLine value
  separates : ∀ value ∈ values, Quoting.outside.Separates value.toList
  trimmed : ∀ value ∈ values, 2 ≤ values.length ∨ ',' ∈ value.toList →
    Text.trim value.toList = value.toList
  nonblank : ∀ value ∈ values, 2 ≤ values.length ∨ Text.trim value.toList ≠ []

theorem separable_ofBody {body : List Char} (line : '\n' ∉ body)
    (closes : Quoting.outside.Closes body) : Separable (ofBody body).values := by
  have oneLine := oneLine_ofBody line
  unfold ofBody at oneLine ⊢
  split
  · exact ⟨by simp [values], by simp [values], by simp [values], by simp [values]⟩
  rename_i nonblank
  have kept : Text.trim body ≠ [] := by simpa using nonblank
  rw [if_neg nonblank] at oneLine
  split
  · rename_i single
    have absent : ',' ∉ body := by simpa using single
    rw [if_pos single] at oneLine
    refine ⟨oneLine, ?_, ?_, ?_⟩
    · simpa [values] using ⟨closes, Quoting.hides_of_not_mem absent⟩
    · simp [values, absent]
    · simpa [values] using kept
  · rename_i several
    rw [if_neg several] at oneLine
    obtain ⟨first, others, cut, joined, separates, all⟩ := Quoting.exists_splitCommas closes
    refine ⟨oneLine, ?_, ?_, ?_⟩
    · simp only [values, List.forall_mem_map, String.toList_ofList, cut, List.forall_mem_cons]
      exact ⟨separates.trim, fun piece member => (all piece member).trim⟩
    · simp [values, Text.trim_trim]
    · cases others with
      | nil =>
        rw [List.intercalate_singleton] at joined
        simp [values, cut, Text.trim_trim, joined, kept]
      | cons second others => simp [values, cut]

/-! ### Joining values -/

theorem closes_join {values : List String}
    (separates : ∀ value ∈ values, Quoting.outside.Separates value.toList) :
    Quoting.outside.Closes (", ".intercalate values).toList := by
  induction values with
  | nil => exact Quoting.closes_plain (by simp) (by simp)
  | cons value rest ih =>
    rw [List.forall_mem_cons] at separates
    cases rest with
    | nil => simpa using separates.1.toCloses
    | cons next rest =>
      have comma : Quoting.outside.Closes ", ".toList :=
        Quoting.closes_plain (by decide) (by decide)
      rw [String.intercalate_cons_of_ne_nil (List.cons_ne_nil next rest), String.toList_append,
        String.toList_append]
      exact (separates.1.toCloses.append comma).append (ih separates.2)

/-- Joined values are cut where they were joined. -/
theorem splitCommas_join {values : List String} (nonempty : values ≠ [])
    (separates : ∀ value ∈ values, Quoting.outside.Separates value.toList) (gap : Nat) :
    (splitCommas .outside (List.replicate gap ' ' ++ (", ".intercalate values).toList)).map
        Text.trim = values.map (Text.trim ·.toList) := by
  have trimmed : ∀ n s, Text.trim (List.replicate n ' ' ++ s) = Text.trim s := fun n s => by
    have nothing : ∀ c ∈ ([] : List Char), Text.isBlank c = true := by simp
    simpa using Text.trim_pad (fun _ => Text.blank_of_mem_replicate) nothing s
  -- The comma before the values puts a space in front of them: `gap` is one from then on.
  induction values generalizing gap with
  | nil => exact absurd rfl nonempty
  | cons value rest ih =>
    rw [List.forall_mem_cons] at separates
    have padded := (Quoting.separates_spaces gap).append separates.1
    cases rest with
    | nil =>
      rw [String.intercalate_singleton, splitCommas_single padded.commas, List.map_singleton,
        trimmed, List.map_singleton]
    | cons next rest =>
      have shape : List.replicate gap ' ' ++ (", ".intercalate (value :: next :: rest)).toList =
          (List.replicate gap ' ' ++ value.toList) ++
            ',' :: (List.replicate 1 ' ' ++ (", ".intercalate (next :: rest)).toList) := by
        rw [String.intercalate_cons_of_ne_nil (List.cons_ne_nil next rest)]
        simp
      rw [shape, splitCommas_append_comma padded.commas padded.ends, List.map_cons, trimmed,
        ih (List.cons_ne_nil next rest) separates.2]
      rfl

/-- Separable values are read again from where they are joined. -/
theorem values_ofBody_join {values : List String} (h : Separable values) :
    (ofBody (", ".intercalate values).toList).values = values := by
  -- Without a comma there is one value at most, and its blanks stay.
  by_cases comma : ',' ∈ (", ".intercalate values).toList
  · have nonempty : values ≠ [] := by
      rintro rfl
      simp at comma
    have nonblank : Text.trim (", ".intercalate values).toList ≠ [] := fun blank =>
      absurd (Text.trim_eq_nil_iff.mp blank _ comma) (by decide)
    have kept : ∀ value ∈ values, Text.trim value.toList = value.toList := by
      intro value member
      refine h.trimmed value member ?_
      rcases values with _ | ⟨first, _ | ⟨next, rest⟩⟩
      · cases member
      · rw [List.mem_singleton] at member
        rw [String.intercalate_singleton] at comma
        exact .inr (member ▸ comma)
      · exact .inl (by simp)
    have pieces := splitCommas_join nonempty h.separates 0
    rw [List.replicate_zero, List.nil_append, List.map_congr_left kept] at pieces
    rw [ofBody, if_neg (by simpa using nonblank), if_neg (by simpa using comma)]
    show (List.map (String.ofList ∘ Text.trim) _) = _
    rw [← List.map_map, pieces, List.map_map]
    simp
  · rcases values with _ | ⟨value, _ | ⟨next, rest⟩⟩
    · rfl
    · have nonblank : Text.trim value.toList ≠ [] := by simpa using h.nonblank value
      rw [String.intercalate_singleton] at comma ⊢
      rw [ofBody, if_neg (by simpa using nonblank), if_pos (by simpa using comma), values,
        String.ofList_toList]
    · rw [String.intercalate_cons_of_ne_nil (List.cons_ne_nil next rest)] at comma
      simp at comma

theorem separable_ofText? {text : String} {parts : TypeParts}
    (found : TypeParts.ofText? text = some parts) : Separable parts.args.values := by
  obtain ⟨body, same, line, closes⟩ := TypeParts.exists_body found
  rw [same]
  exact separable_ofBody line closes

end ColumnArgs

end TableMigration
