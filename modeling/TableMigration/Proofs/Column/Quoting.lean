import TableMigration.Column.TypeText
import TableMigration.Proofs.Text.Casing
import TableMigration.Proofs.Text.Trim

/-!
# Scanning type texts

What the two scans of a type text do with a stretch that hides their mark: a closing parenthesis,
or a comma, that stands inside strings only. Both pass over such a stretch as a whole, so a type
text is cut where it was put together (`TypeParts.ofText?_closed`).
-/

namespace TableMigration

def Quoting.after (quoting : Quoting) (s : List Char) : Quoting :=
  s.foldl Quoting.next quoting

@[simp]
theorem Quoting.after_nil (quoting : Quoting) : quoting.after [] = quoting := rfl

@[simp]
theorem Quoting.after_cons (quoting : Quoting) (c : Char) (s : List Char) :
    quoting.after (c :: s) = (quoting.next c).after s := rfl

theorem Quoting.after_append (quoting : Quoting) (s t : List Char) :
    quoting.after (s ++ t) = (quoting.after s).after t :=
  List.foldl_append

/-- The text has the mark inside strings only, if at all. -/
def Quoting.Hides (mark : Char) : Quoting → List Char → Prop
  | _, [] => True
  | quoting, c :: rest => ¬(quoting = .outside ∧ c = mark) ∧ (quoting.next c).Hides mark rest

theorem Quoting.hides_append {mark : Char} {quoting : Quoting} {s t : List Char} :
    quoting.Hides mark (s ++ t) ↔ quoting.Hides mark s ∧ (quoting.after s).Hides mark t := by
  induction s generalizing quoting with
  | nil => simp [Hides]
  | cons c s ih => rw [List.cons_append, Hides, Hides, ih, and_assoc, after_cons]

theorem Quoting.after_plain {s : List Char} (h : '\'' ∉ s) : outside.after s = outside := by
  induction s with
  | nil => rfl
  | cons c s ih =>
    have hc : c ≠ '\'' := fun same => h (same ▸ List.mem_cons_self)
    rw [after_cons, next, if_neg hc, ih fun member => h (List.mem_cons_of_mem _ member)]

theorem Quoting.hides_of_not_mem {mark : Char} {quoting : Quoting} {s : List Char}
    (h : mark ∉ s) : quoting.Hides mark s := by
  induction s generalizing quoting with
  | nil => trivial
  | cons c s ih =>
    refine ⟨?_, ih fun member => h (List.mem_cons_of_mem _ member)⟩
    rintro ⟨-, rfl⟩
    exact h List.mem_cons_self

/-! ### Stretches that can be passed over -/

namespace Quoting

/-- The stretch ends outside strings, and has parentheses that close inside strings only. -/
structure Closes (quoting : Quoting) (s : List Char) : Prop where
  ends : quoting.after s = .outside
  hides : quoting.Hides ')' s

/-- The stretch also has commas inside strings only. -/
structure Separates (quoting : Quoting) (s : List Char) : Prop extends quoting.Closes s where
  commas : quoting.Hides ',' s

variable {quoting : Quoting} {s t : List Char}

theorem Closes.append (hs : quoting.Closes s) (ht : outside.Closes t) :
    quoting.Closes (s ++ t) where
  ends := by rw [after_append, hs.ends, ht.ends]
  hides := hides_append.mpr ⟨hs.hides, by rw [hs.ends]; exact ht.hides⟩

theorem Separates.append (hs : quoting.Separates s) (ht : outside.Separates t) :
    quoting.Separates (s ++ t) where
  toCloses := hs.toCloses.append ht.toCloses
  commas := hides_append.mpr ⟨hs.commas, by rw [hs.ends]; exact ht.commas⟩

theorem closes_plain (quote : '\'' ∉ s) (close : ')' ∉ s) : outside.Closes s where
  ends := after_plain quote
  hides := hides_of_not_mem close

theorem separates_spaces (n : Nat) : outside.Separates (List.replicate n ' ') := by
  have absent : ∀ mark, mark ≠ ' ' → mark ∉ List.replicate n ' ' := fun mark other member =>
    other (List.eq_of_mem_replicate member)
  exact ⟨closes_plain (absent _ (by decide)) (absent _ (by decide)),
    hides_of_not_mem (absent _ (by decide))⟩

end Quoting

/-! ### The closing parenthesis -/

theorem splitAtClose?_hidden {quoting : Quoting} {s : List Char} (h : quoting.Hides ')' s)
    (rest : List Char) :
    splitAtClose? quoting (s ++ rest) =
      (splitAtClose? (quoting.after s) rest).map fun halves => (s ++ halves.1, halves.2) := by
  induction s generalizing quoting with
  | nil => simp
  | cons c s ih =>
    rw [List.cons_append, splitAtClose?, if_neg h.1, ih h.2, Option.map_map, Quoting.after_cons]
    rfl

/-- A text that hides its parentheses, and ends outside strings, ends where one closes it. -/
theorem splitAtClose?_eq {s : List Char} (h : Quoting.outside.Closes s) (rest : List Char) :
    splitAtClose? .outside (s ++ ')' :: rest) = some (s, rest) := by
  rw [splitAtClose?_hidden h.hides, h.ends]
  simp [splitAtClose?]

theorem eq_of_splitAtClose? {quoting : Quoting} {s : List Char} {halves : List Char × List Char}
    (h : splitAtClose? quoting s = some halves) : s = halves.1 ++ ')' :: halves.2 := by
  induction s generalizing quoting halves with
  | nil => cases h
  | cons c rest ih =>
    rw [splitAtClose?] at h
    split at h
    · rename_i close
      rw [← Option.some.inj h, close.2]
      rfl
    · obtain ⟨later, found, rfl⟩ := Option.map_eq_some_iff.mp h
      exact congrArg (c :: ·) (ih found)

theorem Quoting.closes_of_splitAtClose? {quoting : Quoting} {s : List Char}
    {halves : List Char × List Char} (h : splitAtClose? quoting s = some halves) :
    quoting.Closes halves.1 := by
  induction s generalizing quoting halves with
  | nil => cases h
  | cons c rest ih =>
    rw [splitAtClose?] at h
    split at h
    · rename_i close
      rw [← Option.some.inj h]
      exact ⟨close.1, trivial⟩
    · rename_i inner
      obtain ⟨later, found, rfl⟩ := Option.map_eq_some_iff.mp h
      exact ⟨(ih found).ends, inner, (ih found).hides⟩

/-! ### The commas -/

theorem splitCommas_hidden {quoting : Quoting} {s : List Char} (h : quoting.Hides ',' s)
    (rest : List Char) :
    splitCommas quoting (s ++ rest) = s.foldr consFirst (splitCommas (quoting.after s) rest) := by
  induction s generalizing quoting with
  | nil => rfl
  | cons c s ih => rw [List.cons_append, splitCommas, if_neg h.1, ih h.2]; rfl

theorem foldr_consFirst (s piece : List Char) (pieces : List (List Char)) :
    s.foldr consFirst (piece :: pieces) = (s ++ piece) :: pieces := by
  induction s with
  | nil => rfl
  | cons c s ih => rw [List.foldr_cons, ih]; rfl

theorem splitCommas_single {quoting : Quoting} {s : List Char} (h : quoting.Hides ',' s) :
    splitCommas quoting s = [s] := by
  have whole := splitCommas_hidden h []
  rwa [List.append_nil, splitCommas, foldr_consFirst, List.append_nil] at whole

/-- A text that hides its commas, and ends outside strings, is the piece before a comma. -/
theorem splitCommas_append_comma {s : List Char} (commas : Quoting.outside.Hides ',' s)
    (ends : Quoting.outside.after s = .outside) (rest : List Char) :
    splitCommas .outside (s ++ ',' :: rest) = s :: splitCommas .outside rest := by
  rw [splitCommas_hidden commas, ends, splitCommas, if_pos ⟨rfl, rfl⟩, foldr_consFirst,
    List.append_nil]

theorem of_mem_splitCommas {quoting : Quoting} {s piece : List Char}
    (h : piece ∈ splitCommas quoting s) : ∀ c ∈ piece, c ∈ s := by
  induction s generalizing quoting piece with
  | nil =>
    rw [splitCommas, List.mem_singleton] at h
    simp [h]
  | cons c rest ih =>
    intro d member
    rw [splitCommas] at h
    split at h
    · rcases List.mem_cons.mp h with rfl | later
      · cases member
      · exact List.mem_cons_of_mem _ (ih later d member)
    · cases cut : splitCommas (quoting.next c) rest with
      | nil => simp_all [consFirst]
      | cons first pieces =>
        rw [cut, consFirst] at h
        rcases List.mem_cons.mp h with rfl | later
        · rcases List.mem_cons.mp member with rfl | inside
          · exact List.mem_cons_self
          · exact List.mem_cons_of_mem _ (ih (cut ▸ List.mem_cons_self) d inside)
        · exact List.mem_cons_of_mem _ (ih (cut ▸ List.mem_cons_of_mem _ later) d member)

/-! ### Whole type texts -/

theorem span_word {word rest : List Char} (letters : ∀ c ∈ word, Text.isWordChar c = true)
    (stops : ∀ c ∈ rest.head?, Text.isWordChar c = false) :
    (word ++ rest).takeWhile Text.isWordChar = word ∧
      (word ++ rest).dropWhile Text.isWordChar = rest := by
  rw [List.takeWhile_append_of_pos letters, List.dropWhile_append_of_pos letters]
  cases rest with
  | nil => simp
  | cons c rest =>
    have other : ¬Text.isWordChar c = true := by simp [stops c rfl]
    rw [List.takeWhile_cons_of_neg other, List.dropWhile_cons_of_neg other, List.append_nil]
    exact ⟨rfl, rfl⟩

theorem parenthesis_stops (inner : List Char) :
    ∀ c ∈ ('(' :: inner).head?, Text.isWordChar c = false := by
  intro c first
  rw [← Option.some.inj first]
  decide

theorem modifiersOf_trimEnd (rest : List Char) :
    modifiersOf (Text.trimEnd rest) = modifiersOf rest := by
  rw [modifiersOf, modifiersOf, Text.trim_trimEnd]

/-- Nothing up to the closing parenthesis is trimmed off. -/
theorem trim_called {word : List Char} (nonempty : word ≠ [])
    (letters : ∀ c ∈ word, Text.isWordChar c = true) (body modifiers : List Char) :
    Text.trim (word ++ '(' :: (body ++ ')' :: modifiers)) =
      word ++ '(' :: (body ++ ')' :: Text.trimEnd modifiers) := by
  obtain ⟨c, word, rfl⟩ := List.exists_cons_of_ne_nil nonempty
  have first := Text.isBlank_of_isWordChar (letters c List.mem_cons_self)
  have close : Text.isBlank ')' = false := by decide
  simpa using Text.trim_cons_append_cons first close (word ++ '(' :: body) modifiers

/-- A word, arguments that hide their parentheses, and modifiers are the parts of the type text
that is put together from them. -/
theorem TypeParts.ofText?_closed {word body modifiers : List Char} (nonempty : word ≠ [])
    (letters : ∀ c ∈ word, Text.isWordChar c = true) (bodyLine : '\n' ∉ body)
    (modifiersLine : '\n' ∉ modifiers) (closes : Quoting.outside.Closes body) :
    ofText? (String.ofList (word ++ '(' :: (body ++ ')' :: modifiers))) =
      some
        { base := String.ofList word
          args := .ofBody body
          modifiers := modifiersOf modifiers } := by
  have wordLine : '\n' ∉ word := fun member => absurd (letters _ member) (by decide)
  have trimmedLine : '\n' ∉ Text.trimEnd modifiers := fun member =>
    modifiersLine (Text.mem_of_mem_trimEnd member)
  obtain ⟨taken, dropped⟩ :=
    span_word letters (parenthesis_stops (body ++ ')' :: Text.trimEnd modifiers))
  rw [ofText?, String.toList_ofList, trim_called nonempty letters, taken, dropped,
    if_neg (by simp [nonempty, wordLine, bodyLine, trimmedLine])]
  show (splitAtClose? .outside (body ++ ')' :: _)).map _ = _
  rw [splitAtClose?_eq closes, Option.map_some]
  dsimp only
  rw [modifiersOf_trimEnd]

theorem TypeParts.exists_body {text : String} {parts : TypeParts}
    (found : ofText? text = some parts) :
    ∃ body, parts.args = .ofBody body ∧ '\n' ∉ body ∧ Quoting.outside.Closes body := by
  rw [ofText?] at found
  split at found
  · cases found
  rename_i accepted
  have line : '\n' ∉ Text.trim text.toList := by
    rw [Bool.not_eq_true, Bool.or_eq_false_iff] at accepted
    simpa using accepted.2
  split at found
  · rename_i inner shape
    obtain ⟨⟨body, after⟩, closed, rfl⟩ := Option.map_eq_some_iff.mp found
    refine ⟨body, rfl, fun member => line ?_, Quoting.closes_of_splitAtClose? closed⟩
    have kept : '\n' ∈ (Text.trim text.toList).dropWhile Text.isWordChar := by
      rw [shape, eq_of_splitAtClose? closed]
      simp [member]
    exact (List.dropWhile_sublist _).subset kept
  · rw [← Option.some.inj found]
    exact ⟨[], rfl, by simp, Quoting.closes_plain (by simp) (by simp)⟩

end TableMigration
