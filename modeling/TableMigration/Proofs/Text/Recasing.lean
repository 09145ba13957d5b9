import TableMigration.Proofs.Text.Casing
import TableMigration.Proofs.Text.Trim

/-!
# Texts in another case

Writing the ASCII letters of a text small leaves its blanks, its words and its marks where they
are, and its lower-case form as it is (`lower_fold`).
-/

namespace TableMigration.Text

/-- The text with its ASCII letters in lower case. -/
def fold (s : String) : String :=
  String.ofList (s.toList.map Char.toLower)

/-- The texts differ in the case of ASCII letters at most. -/
def SameLetters (s t : String) : Prop :=
  fold s = fold t

instance (s t : String) : Decidable (SameLetters s t) :=
  inferInstanceAs (Decidable (fold s = fold t))

@[simp]
theorem toList_fold (s : String) : (fold s).toList = s.toList.map Char.toLower :=
  String.toList_ofList

theorem fold_ofList (s : List Char) : fold (String.ofList s) = String.ofList (s.map Char.toLower) := by
  rw [fold, String.toList_ofList]

/-! ### Characters -/

theorem toLower_of_wide {c : Char} (wide : 128 ≤ c.toNat) : c.toLower = c := by
  rw [Char.toLower, dif_neg]
  rintro ⟨-, upper⟩
  have bound : c.val.toNat ≤ 90 := upper
  have : c.toNat = c.val.toNat := rfl
  omega

/-- What holds of both cases of each ASCII letter alike holds so of every character. -/
theorem toLower_congr {α : Type} {f : Char → α}
    (ascii : ∀ n < 128, f (Char.ofNat n).toLower = f (Char.ofNat n)) (c : Char) :
    f c.toLower = f c := by
  by_cases wide : 128 ≤ c.toNat
  · rw [toLower_of_wide wide]
  · exact forall_ascii (P := fun c => f c.toLower = f c) ascii (by omega)

theorem isBlank_toLower (c : Char) : isBlank c.toLower = isBlank c :=
  toLower_congr (by decide) c

theorem isWordChar_toLower (c : Char) : isWordChar c.toLower = isWordChar c :=
  toLower_congr (by decide) c

theorem isCased_toLower (c : Char) : isCased c.toLower = isCased c :=
  toLower_congr (by decide) c

theorem isCaseIgnorable_toLower (c : Char) : isCaseIgnorable c.toLower = isCaseIgnorable c :=
  toLower_congr (by decide) c

theorem lowerChar_toLower (c : Char) : lowerChar c.toLower = lowerChar c :=
  toLower_congr (by decide) c

theorem isAlpha_toLower (c : Char) : c.toLower.isAlpha = c.isAlpha :=
  toLower_congr (by decide) c

theorem toLower_of_not_isAlpha {c : Char} (h : c.isAlpha = false) : c.toLower = c := by
  rw [Char.toLower, dif_neg]
  intro upper
  have letter : c.isAlpha = true := by
    rw [Char.isAlpha, Char.isUpper, decide_eq_true upper]
    rfl
  rw [h] at letter
  cases letter

/-- A mark that is no letter comes from no other character. -/
theorem toLower_eq_iff {c mark : Char} (other : mark.isAlpha = false) :
    c.toLower = mark ↔ c = mark := by
  constructor
  · intro same
    have plain : c.isAlpha = false := by rw [← isAlpha_toLower, same, other]
    rwa [toLower_of_not_isAlpha plain] at same
  · rintro rfl
    exact toLower_of_not_isAlpha other

/-! ### Trimming -/

theorem trim_map {f : Char → Char} (h : ∀ c, isBlank (f c) = isBlank c) (s : List Char) :
    trim (s.map f) = (trim s).map f := by
  have same : isBlank ∘ f = isBlank := funext h
  rw [trim, trim, trimStart, trimStart, List.dropWhile_map, same, trimEnd_eq, trimEnd_eq,
    List.rdropWhile, List.rdropWhile, ← List.map_reverse, List.dropWhile_map, same, List.map_reverse]

theorem SameLetters.trimmed {s t : String} (h : SameLetters s t) :
    SameLetters (trimmed s) (trimmed t) := by
  have folded : ∀ s, fold (Text.trimmed s) = Text.trimmed (fold s) := by
    intro s
    rw [Text.trimmed, Text.trimmed, toList_fold, trim_map isBlank_toLower, fold_ofList]
  rw [SameLetters, folded, folded, h]

/-! ### Lowering -/

theorem startsCased_map (s : List Char) : startsCased (s.map Char.toLower) = startsCased s := by
  have ignorable : isCaseIgnorable ∘ Char.toLower = isCaseIgnorable := funext isCaseIgnorable_toLower
  have cased : isCased ∘ Char.toLower = isCased := funext isCased_toLower
  rw [startsCased, startsCased, List.dropWhile_map, ignorable, List.head?_map, Option.map_map, cased]

theorem lowerFrom_map (before s : List Char) :
    lowerFrom (before.map Char.toLower) (s.map Char.toLower) = lowerFrom before s := by
  induction s generalizing before with
  | nil => rfl
  | cons c rest ih =>
    have sigma : c.toLower = 'Σ' ↔ c = 'Σ' := toLower_eq_iff (by decide)
    have form : lowerSigma (before.map Char.toLower) (rest.map Char.toLower) =
        lowerSigma before rest := by
      rw [lowerSigma, lowerSigma, startsCased_map, startsCased_map]
    rw [List.map_cons, lowerFrom, lowerFrom, form, lowerChar_toLower, ← List.map_cons, ih]
    simp only [sigma]

theorem lower_fold (s : String) : lower (fold s) = lower s := by
  rw [lower, toList_fold, lower]
  exact congrArg String.ofList (lowerFrom_map [] s.toList)

theorem SameLetters.lower_eq {s t : String} (h : SameLetters s t) : lower s = lower t := by
  rw [← lower_fold s, ← lower_fold t, h]

end TableMigration.Text
