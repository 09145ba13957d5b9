import TableMigration.Proofs.Column.Arguments
import TableMigration.Proofs.Column.EnumStatement

/-!
# Enumerations read again

The values between the brackets of a statement are quoted for one language and read by the rules of
another. `ofText?_bracketText` says that nothing is lost all the same: a type with that text between
its parentheses has as many values, and its statement shows the same text.
-/

namespace TableMigration.EnumText

/-- The text between the brackets in the statement of an enumeration. -/
def bracketText (args : ColumnArgs) : String :=
  ", ".intercalate (args.values.map Statement.enumValue)

/-! ### Values -/

theorem writesChar_quoteChar (c : Char) : WritesChar c (Statement.quoteChar c) := by
  rw [Statement.quoteChar]
  split
  · rename_i same
    exact same ▸ .backslash
  · split
    · rename_i same
      exact same ▸ .escapedQuote
    · rename_i backslash quote
      exact .plain quote backslash

theorem writesValue_quoteChar (value : List Char) :
    WritesValue value (value.flatMap Statement.quoteChar) := by
  induction value with
  | nil => exact .nil
  | cons c rest ih =>
    rw [List.flatMap_cons]
    exact .cons (writesChar_quoteChar c) ih

theorem toList_quote (value : String) :
    (Statement.quote value).toList = quoted (value.toList.flatMap Statement.quoteChar) := by
  simp [Statement.quote, quoted]

theorem enumValue_eq (raw : String) :
    Statement.enumValue raw = raw ∨ ∃ value, Statement.enumValue raw = Statement.quote value := by
  rw [Statement.enumValue]
  split
  · exact .inr ⟨_, rfl⟩
  · exact .inl rfl

theorem enumValue_quote (value : String) :
    Statement.enumValue (Statement.quote value) = Statement.quote value := by
  have written := enumValue_quoted (writesValue_quoteChar value.toList)
  rwa [← toList_quote, String.ofList_toList] at written

theorem enumValue_enumValue (raw : String) :
    Statement.enumValue (Statement.enumValue raw) = Statement.enumValue raw := by
  rcases enumValue_eq raw with same | ⟨value, quoted⟩
  · rw [same, same]
  · rw [quoted, enumValue_quote]

theorem separates_quote (value : String) :
    Quoting.outside.Separates (Statement.quote value).toList := by
  rw [toList_quote]
  exact (writesValue_quoteChar value.toList).separates

theorem trim_quote (value : String) :
    Text.trim (Statement.quote value).toList = (Statement.quote value).toList := by
  have trimmed := trim_quoted 0 0 (value.toList.flatMap Statement.quoteChar)
  simpa [toList_quote] using trimmed

/-! ### Lists of values -/

theorem separable_map_enumValue {values : List String} (h : ColumnArgs.Separable values) :
    ColumnArgs.Separable (values.map Statement.enumValue) where
  oneLine := List.forall_mem_map.mpr fun raw member =>
    Statement.oneLine_enumValue (h.oneLine raw member)
  separates := List.forall_mem_map.mpr fun raw member => by
    rcases enumValue_eq raw with same | ⟨value, quoted⟩
    · rw [same]
      exact h.separates raw member
    · rw [quoted]
      exact separates_quote value
  trimmed := List.forall_mem_map.mpr fun raw member => by
    rw [List.length_map]
    rcases enumValue_eq raw with same | ⟨value, quoted⟩
    · rw [same]
      exact h.trimmed raw member
    · rw [quoted]
      exact fun _ => trim_quote value
  nonblank := List.forall_mem_map.mpr fun raw member => by
    rw [List.length_map]
    rcases enumValue_eq raw with same | ⟨value, quoted⟩
    · rw [same]
      exact h.nonblank raw member
    · rw [quoted, trim_quote, toList_quote]
      exact .inr (by simp [EnumText.quoted])

theorem values_ofBody_bracketText {args : ColumnArgs} (h : ColumnArgs.Separable args.values) :
    (ColumnArgs.ofBody (bracketText args).toList).values =
      args.values.map Statement.enumValue :=
  ColumnArgs.values_ofBody_join (separable_map_enumValue h)

/-! ### Statements -/

theorem statement_eq_bracketText {column : Column} (named : column.name ≠ "")
    (enum : column.method = "enum") :
    column.statement =
      "$table->enum(" ++ Statement.quote column.name ++ ", [" ++ bracketText column.args ++ "])" ++
        laterCalls column := by
  rw [← String.toList_inj, statement_enum named enum]
  simp [bracketText]

/-- The statement of an enumeration shows a text between its brackets that is itself the list of
values of a type: read again from there it has as many values, and no modifiers, and is shown as the
same text. The arguments may come from any type text, however its values are quoted and spaced. -/
theorem ofText?_bracketText {text : String} {parts : TypeParts}
    (accepted : TypeParts.ofText? text = some parts) :
    (∀ column : Column, column.name ≠ "" → column.method = "enum" →
      column.statement =
        "$table->enum(" ++ Statement.quote column.name ++ ", [" ++ bracketText column.args ++ "])" ++
          laterCalls column) ∧
    ∃ again, TypeParts.ofText? ("enum(" ++ bracketText parts.args ++ ")") = some again ∧
      again.base = "enum" ∧ again.modifiers = none ∧
      again.args.values.length = parts.args.values.length ∧
      bracketText again.args = bracketText parts.args := by
  have separable := ColumnArgs.separable_ofText? accepted
  have shown := separable_map_enumValue separable
  refine ⟨fun column => statement_eq_bracketText, ?_⟩
  have line : Text.OneLine (bracketText parts.args) :=
    .intercalate (by decide) shown.oneLine
  have closes : Quoting.outside.Closes (bracketText parts.args).toList :=
    ColumnArgs.closes_join shown.separates
  have whole : "enum(" ++ bracketText parts.args ++ ")" =
      String.ofList ("enum".toList ++ '(' :: ((bracketText parts.args).toList ++ ')' :: [])) := by
    rw [← String.toList_inj]
    simp
  have values := values_ofBody_bracketText separable
  rw [whole]
  have letters : ∀ c ∈ "enum".toList, Text.isWordChar c = true := fun c member =>
    Text.isWordChar_of_isAlpha (word_letters rfl c member)
  refine ⟨_, TypeParts.ofText?_closed (by decide) letters line (by simp) closes,
    rfl, rfl, ?_, ?_⟩
  · rw [values, List.length_map]
  · have twice : Statement.enumValue ∘ Statement.enumValue = Statement.enumValue :=
      funext enumValue_enumValue
    rw [bracketText, values, List.map_map, twice, bracketText]

theorem ofText?_bracketText_mixed :
    ∃ parts again,
      TypeParts.ofText? "Set( 'it''s' ,x\\y, , 'a,)' 'b') binary" = some parts ∧
      bracketText parts.args = "'it\\'s', x\\y, , 'a,)\\' \\'b'" ∧
      TypeParts.ofText? "enum('it\\'s', x\\y, , 'a,)\\' \\'b')" = some again ∧
      again.args.values.length = 4 ∧ bracketText again.args = bracketText parts.args := by
  have accepted : TypeParts.ofText? "Set( 'it''s' ,x\\y, , 'a,)' 'b') binary" =
      some ⟨"Set", .list ["'it''s'", "x\\y", "", "'a,)' 'b'"], some "binary"⟩ := by
    decide +kernel
  obtain ⟨-, again, read, -, -, values, same⟩ := ofText?_bracketText accepted
  exact ⟨_, again, accepted, by decide +kernel, read, values, same⟩

end TableMigration.EnumText
