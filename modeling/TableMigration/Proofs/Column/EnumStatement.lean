import TableMigration.Proofs.Column.EnumText

/-!
# Statements of enumerations

`enumArguments?_statement` follows an enumeration from the type text of the server to the statement
that declares its column: read back, the statement has the values of the type text.
-/

namespace TableMigration.EnumText

/-! ### Reading the type -/

theorem WritesChar.newline {c : Char} {written : List Char} (h : WritesChar c written)
    (line : c ≠ '\n') : '\n' ∉ written := by
  cases h with
  | plain => simpa using line.symm
  | _ => decide

theorem WritesValue.newline {value text : List Char} (h : WritesValue value text)
    (line : '\n' ∉ value) : '\n' ∉ text := by
  induction h with
  | nil => exact line
  | @cons c value _ _ first _ ih =>
    rw [List.mem_append, not_or]
    exact ⟨first.newline fun same => line (same ▸ List.mem_cons_self),
      ih fun member => line (List.mem_cons_of_mem _ member)⟩

theorem WritesList.newline {values : List String} {text : List Char} (h : WritesList values text)
    (lines : ∀ value ∈ values, '\n' ∉ value.toList) : '\n' ∉ text := by
  induction h with
  | last value => simpa [quoted] using value.newline (lines _ List.mem_cons_self)
  | more before after value _ ih =>
    have first := value.newline (lines _ List.mem_cons_self)
    have others := ih fun value member => lines value (List.mem_cons_of_mem _ member)
    simp [quoted, first, others]

theorem Writes.ne_nil {values : List String} {type : String} (h : Writes values type) :
    values ≠ [] := by
  obtain ⟨_, _, _, -, written, -⟩ := h
  cases written <;> simp

theorem word_letters {word : List Char} (h : word.map Char.toLower = "enum".toList) :
    ∀ c ∈ word, c.isAlpha = true := by
  intro c member
  have lowered : c.toLower ∈ "enum".toList := h ▸ List.mem_map_of_mem member
  have letters : ∀ d ∈ "enum".toList, d.isAlpha = true := List.all_eq_true.mp (by decide)
  exact Text.isAlpha_of_toLower (letters _ lowered)

theorem ofName_enum {word : List Char} (h : word.map Char.toLower = "enum".toList) :
    BaseType.ofName (String.ofList word) = .enum := by
  have lowered : Text.lower (String.ofList word) = "enum" := by
    rw [Text.lower_ascii fun c member => Text.toNat_lt_of_isAlpha (word_letters h c member), h]
    rfl
  rw [BaseType.ofName, lowered]
  rfl

/-- A written enumeration resolves to the method `enum`, with its values for arguments. -/
theorem Writes.resolved {values : List String} {type : String} (h : Writes values type)
    (lines : ∀ value ∈ values, '\n' ∉ value.toList) (extra : String) :
    (ResolvedType.ofText type extra).method = "enum" ∧
      (ResolvedType.ofText type extra).args.values.map Statement.enumValue =
        values.map Statement.quote := by
  obtain ⟨word, list, modifiers, enum, written, modifiersLine, rfl⟩ := h
  have nonempty : word ≠ [] := by
    rintro rfl
    cases enum
  have letters : ∀ c ∈ word, Text.isWordChar c = true := fun c member =>
    Text.isWordChar_of_isAlpha (word_letters enum c member)
  have parts := TypeParts.ofText?_closed nonempty letters (written.newline lines) modifiersLine
    written.closes
  rw [ResolvedType.ofText, parts]
  simp only [ResolvedType.ofParts, ofName_enum enum, BaseType.integerMethods?,
    BaseType.integerMethod?, Option.map_none, BaseType.fixedMethod?]
  exact ⟨rfl, written.values_ofBody⟩

/-! ### Writing the statement -/

/-- The calls that follow the first one in the statement of a column. -/
def laterCalls (column : Column) : String :=
  (if column.nullable then "->nullable()" else "") ++
    (match column.defaultValue with
     | some value => Statement.chained "default" (Statement.defaultArgument column.method value)
     | none => "") ++
    (if column.comment = "" then ""
     else Statement.chained "comment" (Statement.quote column.comment)) ++
    ";"

theorem columnArgs_enum (args : ColumnArgs) :
    Statement.columnArgs "enum" args =
      some (Statement.bracketed (args.values.map Statement.enumValue)) :=
  if_pos rfl

theorem statement_enum {column : Column} (named : column.name ≠ "")
    (enum : column.method = "enum") :
    column.statement.toList =
      "$table->enum(".toList ++ ((Statement.quote column.name).toList ++ (", [".toList ++
        ((", ".intercalate (column.args.values.map Statement.enumValue)).toList ++
          ']' :: (")".toList ++ (laterCalls column).toList)))) := by
  have bracket : ", ".toList ++ "[".toList = ", [".toList := by decide
  rw [Column.statement, if_neg named, enum, columnArgs_enum, Option.map_some, Option.getD_some,
    Statement.bracketed, laterCalls, enum, ← bracket]
  simp only [String.toList_append, List.append_assoc]
  rfl

/-- The values of an enumeration keep their texts and their order, whichever way the type writes
them, from the type to the second argument of the statement. -/
theorem enumArguments?_statement {values : List String} {type : String} {column : Column}
    (written : Writes values type) (extra : String) (lines : ∀ value ∈ values, '\n' ∉ value.toList)
    (named : column.name ≠ "")
    (method : column.method = (ResolvedType.ofText type extra).method)
    (args : column.args = (ResolvedType.ofText type extra).args) :
    Php.enumArguments? column.statement = some (column.name, values) := by
  obtain ⟨enum, quotes⟩ := written.resolved lines extra
  rw [← method] at enum
  rw [← args] at quotes
  have reading : Php.read column.statement.toList =
      "$table->enum(".toList.map .mark ++ .text column.name :: .mark ',' :: .mark '[' ::
        Php.read ((", ".intercalate (values.map Statement.quote)).toList ++
          ']' :: (")".toList ++ (laterCalls column).toList)) := by
    rw [statement_enum named enum, quotes, Php.read_code (by decide), Php.read_quote,
      Php.read_code (by decide)]
    rfl
  have closing : Php.read (")".toList ++ (laterCalls column).toList) =
      .mark ')' :: Php.read (laterCalls column).toList :=
    Php.read_code (by decide) _
  rw [Php.enumArguments?, reading, Php.expect?, Php.isPrefixOf?_append, Option.bind_eq_bind,
    Option.bind_some]
  show Option.bind (Php.items? _) _ = _
  rw [Php.items?_quotes written.ne_nil, closing]
  rfl

theorem enumArguments?_ofRow :
    Writes ["it's", "a,)", "\\"] "Enum('it\\'s' , 'a,)','\\\\') unsigned" ∧
      Php.enumArguments?
          (Column.ofRow
            { field := "kind"
              type := "Enum('it\\'s' , 'a,)','\\\\') unsigned"
              null := "YES"
              key := ""
              default := "a,)"
              extra := ""
              comment := "c" }).statement =
        some ("kind", ["it's", "a,)", "\\"]) := by
  have its : WritesValue "it's".toList (['i'] ++ (['t'] ++ (['\\', '\''] ++ (['s'] ++ [])))) :=
    .cons (.plain (by decide) (by decide)) <| .cons (.plain (by decide) (by decide)) <|
      .cons .escapedQuote <| .cons (.plain (by decide) (by decide)) .nil
  have marks : WritesValue "a,)".toList (['a'] ++ ([','] ++ ([')'] ++ []))) :=
    .cons (.plain (by decide) (by decide)) <| .cons (.plain (by decide) (by decide)) <|
      .cons (.plain (by decide) (by decide)) .nil
  have backslash : WritesValue "\\".toList (['\\', '\\'] ++ []) := .cons .backslash .nil
  have written : Writes ["it's", "a,)", "\\"] "Enum('it\\'s' , 'a,)','\\\\') unsigned" :=
    ⟨"Enum".toList, _, " unsigned".toList, by decide,
      .more 1 1 its (.more 0 0 marks (.last backslash)), by decide, by decide⟩
  exact ⟨written, enumArguments?_statement written "" (by decide) (by decide) rfl rfl⟩

end TableMigration.EnumText
