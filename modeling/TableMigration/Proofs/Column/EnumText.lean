import TableMigration.Proofs.Column.Quoting
import TableMigration.Proofs.Php.Reader
import TableMigration.Proofs.Text.Casing
import TableMigration.Proofs.Text.Trim

/-!
# Enumerations

The ways in which the server writes an enumeration, and what becomes of one. A value keeps its
text (`enumValue_quoted`), whichever way its quotes are written, and so does a list of values in the
statement that declares its column (`enumArguments?_statement`).
-/

namespace TableMigration.EnumText

/-- The ways to write a character of a value. -/
inductive WritesChar : Char → List Char → Prop
  | doubledQuote : WritesChar '\'' ['\'', '\'']
  | escapedQuote : WritesChar '\'' ['\\', '\'']
  | backslash : WritesChar '\\' ['\\', '\\']
  | plain {c : Char} : c ≠ '\'' → c ≠ '\\' → WritesChar c [c]

/-- The ways to write a value between its quotes. -/
inductive WritesValue : List Char → List Char → Prop
  | nil : WritesValue [] []
  | cons {c : Char} {value written text : List Char} :
      WritesChar c written → WritesValue value text → WritesValue (c :: value) (written ++ text)

def quoted (text : List Char) : List Char :=
  '\'' :: (text ++ ['\''])

/-- The ways to write a list of values, with spaces around its commas. -/
inductive WritesList : List String → List Char → Prop
  | last {value : String} {text : List Char} :
      WritesValue value.toList text → WritesList [value] (quoted text)
  | more {value : String} {values : List String} {text rest : List Char} (before after : Nat) :
      WritesValue value.toList text → WritesList values rest →
      WritesList (value :: values)
        (quoted text ++ List.replicate before ' ' ++ ',' :: (List.replicate after ' ' ++ rest))

/-- The ways to write the type of an enumeration: its word in any case, its values in parentheses,
and modifiers without a line feed. -/
def Writes (values : List String) (type : String) : Prop :=
  ∃ word list modifiers, word.map Char.toLower = "enum".toList ∧ WritesList values list ∧
    '\n' ∉ modifiers ∧ type = String.ofList (word ++ '(' :: (list ++ ')' :: modifiers))

/-! ### Single values -/

theorem WritesChar.scan {c mark : Char} {written : List Char} (h : WritesChar c written)
    (notQuote : mark ≠ '\'') :
    Quoting.inside.after written = .inside ∧ Quoting.inside.Hides mark written := by
  cases h with
  | doubledQuote => simp [Quoting.next, Quoting.Hides, notQuote.symm]
  | escapedQuote => simp [Quoting.next, Quoting.Hides]
  | backslash => simp [Quoting.next, Quoting.Hides]
  | plain quote backslash => simp [Quoting.next, Quoting.Hides, quote, backslash]

theorem WritesValue.scan {mark : Char} {value text : List Char} (h : WritesValue value text)
    (notQuote : mark ≠ '\'') :
    Quoting.inside.after text = .inside ∧ Quoting.inside.Hides mark text := by
  induction h with
  | nil => exact ⟨rfl, trivial⟩
  | cons first _ ih =>
    obtain ⟨stays, hides⟩ := first.scan notQuote
    rw [Quoting.after_append, Quoting.hides_append, stays]
    exact ⟨ih.1, hides, ih.2⟩

/-- A text between quotes ends outside strings, and has every mark inside, if a scan stays inside
all along it. -/
theorem separates_quoted {text : List Char} (scan : ∀ mark, mark ≠ '\'' →
      Quoting.inside.after text = .inside ∧ Quoting.inside.Hides mark text) :
    Quoting.outside.Separates (quoted text) := by
  have opened : Quoting.outside.next '\'' = .inside := rfl
  have closed : Quoting.inside.next '\'' = .outside := rfl
  have hides : ∀ mark, mark ≠ '\'' → Quoting.outside.Hides mark (quoted text) := by
    intro mark notQuote
    obtain ⟨stays, inner⟩ := scan mark notQuote
    rw [quoted, Quoting.Hides, opened, Quoting.hides_append, stays]
    exact ⟨by simp [notQuote.symm], inner, by simp [Quoting.Hides]⟩
  refine ⟨⟨?_, hides _ (by decide)⟩, hides _ (by decide)⟩
  obtain ⟨stays, -⟩ := scan ')' (by decide)
  rw [quoted, Quoting.after_cons, opened, Quoting.after_append, stays]
  exact closed

theorem WritesValue.separates {value text : List Char} (h : WritesValue value text) :
    Quoting.outside.Separates (quoted text) :=
  separates_quoted fun _ => h.scan

theorem WritesValue.unescape {value text : List Char} (h : WritesValue value text) :
    Statement.unescapeEnum text = value := by
  induction h with
  | nil => rfl
  | cons first _ ih =>
    cases first with
    | doubledQuote => simp [Statement.unescapeEnum, ih]
    | escapedQuote => simp [Statement.unescapeEnum, ih]
    | backslash => simp [Statement.unescapeEnum, ih]
    | plain quote backslash =>
      rw [List.singleton_append, Statement.unescapeEnum.eq_5 _ _ (by simp [quote])
        (by simp [backslash]) (by simp [backslash]), ih]

theorem insideQuotes?_quoted (text : List Char) :
    Statement.insideQuotes? (quoted text) = some text := by
  simp [quoted, Statement.insideQuotes?]

theorem enumValue_quoted {value : String} {text : List Char} (h : WritesValue value.toList text) :
    Statement.enumValue (String.ofList (quoted text)) = Statement.quote value := by
  rw [Statement.enumValue, String.toList_ofList, insideQuotes?_quoted]
  dsimp only
  rw [h.unescape, String.ofList_toList]

/-! ### Lists of values -/

theorem not_blank_quote : Text.isBlank '\'' = false := by decide

theorem trim_quoted (before after : Nat) (text : List Char) :
    Text.trim (List.replicate before ' ' ++ (quoted text ++ List.replicate after ' ')) =
      quoted text := by
  rw [Text.trim_pad (fun _ => Text.blank_of_mem_replicate) fun _ => Text.blank_of_mem_replicate,
    quoted, Text.trim_cons_append_cons not_blank_quote not_blank_quote]
  rfl

theorem WritesValue.separates_padded {value text : List Char} (h : WritesValue value text)
    (before after : Nat) :
    Quoting.outside.Separates
      (List.replicate before ' ' ++ (quoted text ++ List.replicate after ' ')) :=
  (Quoting.separates_spaces before).append (h.separates.append (Quoting.separates_spaces after))

theorem WritesList.closes {values : List String} {text : List Char} (h : WritesList values text) :
    Quoting.outside.Closes text := by
  induction h with
  | last value => exact value.separates.toCloses
  | more before after value _ ih =>
    have comma : Quoting.outside.Closes [','] := Quoting.closes_plain (by decide) (by decide)
    have first := value.separates.append (Quoting.separates_spaces before)
    exact first.toCloses.append
      (comma.append ((Quoting.separates_spaces after).toCloses.append ih))

/-- Cut at its commas, a written list is its values again. -/
theorem WritesList.pieces {values : List String} {text : List Char} (h : WritesList values text)
    (gap : Nat) :
    (splitCommas .outside (List.replicate gap ' ' ++ text)).map
        (fun piece => Statement.enumValue (String.ofList (Text.trim piece))) =
      values.map Statement.quote := by
  -- The spaces behind the comma before the list are carried along.
  induction h generalizing gap with
  | @last _ text value =>
    have padded := value.separates_padded gap 0
    have trimmed := trim_quoted gap 0 text
    rw [List.replicate_zero, List.append_nil] at padded trimmed
    rw [splitCommas_single padded.commas, List.map_singleton, trimmed, enumValue_quoted value,
      List.map_singleton]
  | @more _ _ text rest before after value _ ih =>
    have padded := value.separates_padded gap before
    rw [← List.append_assoc, splitCommas_append_comma padded.commas padded.ends, List.map_cons, ih after,
      trim_quoted, enumValue_quoted value, List.map_cons]

theorem WritesList.quote_mem {values : List String} {text : List Char}
    (h : WritesList values text) :
    '\'' ∈ text := by
  cases h <;> simp [quoted]

/-- The arguments of a written list are its values, each in some written form. -/
theorem WritesList.values_ofBody {values : List String} {text : List Char}
    (h : WritesList values text) :
    (ColumnArgs.ofBody text).values.map Statement.enumValue = values.map Statement.quote := by
  have nonblank : Text.trim text ≠ [] := fun blank =>
    absurd (Text.trim_eq_nil_iff.mp blank _ h.quote_mem) (by decide)
  rw [ColumnArgs.ofBody, if_neg (by simpa using nonblank)]
  by_cases comma : ',' ∈ text
  · rw [if_neg (by simpa using comma)]
    rw [ColumnArgs.values, List.map_map]
    exact h.pieces 0
  · rw [if_pos (by simpa using comma)]
    cases h with
    | last value => simp [ColumnArgs.values, enumValue_quoted value]
    | more => simp at comma

end TableMigration.EnumText
