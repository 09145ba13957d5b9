import TableMigration.Proofs.Column.Counting
import TableMigration.Proofs.Php.Nesting

/-!
# Whole statements of columns

The column of a row has one whole statement, whatever its other texts hold, when the row has a
supported type with numbers and strings for arguments and a default that its method can write as it
stands (`isStatement_of_mem_listOfRows`). Only a method for numbers writes a default as it stands,
so only such a default can break a statement open.
-/

namespace TableMigration

open Php (Enclosed Fits IsStatement Reads)

/-! ### Arguments of types -/

/-- What stands between the quotes of a string in SQL: its quotes are doubled or stand after a
backslash, and a backslash takes the next character along. -/
inductive StringBody : List Char → Prop where
  | nil : StringBody []
  | plain {c : Char} {rest : List Char} (quote : c ≠ '\'') (backslash : c ≠ '\\')
      (later : StringBody rest) : StringBody (c :: rest)
  | doubled {rest : List Char} (later : StringBody rest) : StringBody ('\'' :: '\'' :: rest)
  | escaped (c : Char) {rest : List Char} (later : StringBody rest) : StringBody ('\\' :: c :: rest)

/-- An argument of a column type, without blanks around it. -/
inductive TypeArgument : List Char → Prop where
  /-- A decimal number without a sign. -/
  | number {digits : List Char} (mantissa : Statement.isMantissa digits = true) :
      TypeArgument digits
  | string {body : List Char} (written : StringBody body) :
      TypeArgument ('\'' :: (body ++ ['\'']))

/-- A string in SQL reads as literals next to each other: a doubled quote ends one and begins the
next. -/
theorem StringBody.exists_texts {body : List Char} (h : StringBody body) (value : List Char) :
    ∃ texts : List String, ∀ rest,
      Php.tokens (.literal value) (body ++ '\'' :: rest) =
        texts.map .text ++ Php.tokens .code rest := by
  -- The value is what has been read of the literal that is open, so it grows along the body.
  induction h generalizing value with
  | nil => exact ⟨[String.ofList value], fun rest => by simp [Php.tokens]⟩
  | plain quote backslash _ ih =>
    obtain ⟨texts, reading⟩ := ih (value ++ [_])
    refine ⟨texts, fun rest => ?_⟩
    rw [List.cons_append, Php.tokens, if_neg backslash, if_neg quote, reading]
  | doubled _ ih =>
    obtain ⟨texts, reading⟩ := ih []
    refine ⟨String.ofList value :: texts, fun rest => ?_⟩
    rw [List.cons_append, Php.tokens, if_neg (by decide), if_pos rfl, List.cons_append, Php.tokens,
      if_pos rfl, reading]
    rfl
  | escaped c _ ih =>
    obtain ⟨texts, reading⟩ := ih (value ++ if c = '\\' ∨ c = '\'' then [c] else ['\\', c])
    refine ⟨texts, fun rest => ?_⟩
    rw [List.cons_append, Php.tokens, if_pos rfl, List.cons_append, Php.tokens, ← reading rest]
    split <;> rfl

theorem TypeArgument.enclosed {s : List Char} (h : TypeArgument s) : Enclosed (String.ofList s) := by
  cases h with
  | number mantissa =>
    refine Php.enclosed_plain (List.all_eq_true.mpr fun c member => ?_)
    rw [String.toList_ofList] at member
    exact Php.isPlain_of_isNumberChar <| Statement.isNumberChar_of_isNumeralChar <|
      Statement.isNumeralChar_of_isMantissa mantissa c member
  | @string body written =>
    obtain ⟨texts, reading⟩ := written.exists_texts []
    have pieces : Reads (String.ofList ('\'' :: (body ++ ['\'']))) (texts.map .text) := by
      intro rest
      rw [String.toList_ofList, List.cons_append, Php.tokens, if_pos rfl, List.append_assoc,
        List.singleton_append, reading]
    exact pieces.enclosed (Php.level_texts texts) (by simp) (by simp)

theorem TypeArgument.enclosed_of_trim {value : String} (h : TypeArgument (Text.trim value.toList)) :
    Enclosed value := by
  obtain ⟨before, after, shape, front, back⟩ := Text.exists_trim value.toList
  have parts : value = String.ofList before ++
      (String.ofList (Text.trim value.toList) ++ String.ofList after) := by
    apply String.toList_inj.mp
    simpa using shape
  rw [parts]
  exact (Php.enclosed_blanks front).append (h.enclosed.append (Php.enclosed_blanks back))

/-! ### Statements of columns -/

namespace Column

theorem enclosed_enumValue {raw : String} (h : Enclosed raw) :
    Enclosed (Statement.enumValue raw) := by
  unfold Statement.enumValue
  split
  · exact Php.enclosed_quote _
  · exact h

theorem enclosed_columnArgs {method : String} {args : ColumnArgs}
    (h : ∀ value ∈ args.values, Enclosed value) :
    ∀ text ∈ Statement.columnArgs method args, Enclosed text := by
  intro text found
  unfold Statement.columnArgs at found
  split at found
  · rw [← Option.some.inj found]
    refine Enclosed.bracketed fun item member => ?_
    obtain ⟨raw, inside, rfl⟩ := List.mem_map.mp member
    exact enclosed_enumValue (h raw inside)
  · split at found
    · cases found
    · exact Option.some.inj found ▸ h _ List.mem_cons_self
    · exact Option.some.inj found ▸ h _ List.mem_cons_self
    · exact Option.some.inj found ▸ Enclosed.bracketed h

theorem enclosed_laterArguments {method : String} {args : ColumnArgs}
    (h : ∀ value ∈ args.values, Enclosed value) : Enclosed (laterArguments method args) := by
  unfold laterArguments
  cases found : Statement.columnArgs method args with
  | none => exact Php.enclosed_plain rfl
  | some text =>
    have comma : Enclosed ", " := Php.enclosed_plain (by decide)
    exact comma.append (enclosed_columnArgs h text found)

/-- The method is a word, and not the one that sets a default. -/
def IsMethod (method : String) : Prop :=
  method.toList.all Char.isAlpha = true ∧ method ≠ "default"

instance (method : String) : Decidable (IsMethod method) :=
  inferInstanceAs (Decidable (_ ∧ _))

theorem fits_of_isMethod {method argument : String} (h : IsMethod method)
    (enclosed : Enclosed argument) : Fits ⟨method, argument⟩ :=
  ⟨h.1, enclosed, fun same => absurd same h.2⟩

/-- A column has a whole statement if its method, its arguments and its default are whole. -/
theorem isStatement {column : Column} (method : IsMethod column.method)
    (args : ∀ value ∈ column.args.values, Enclosed value)
    (default : ∀ text ∈ column.defaultValue, ∃ value : Php.DefaultValue,
      value.written = Statement.defaultArgument column.method text) :
    IsStatement column.statement := by
  have nullable : Fits ⟨"nullable", ""⟩ := fits_of_isMethod (by decide) (Php.enclosed_plain rfl)
  have comment : Fits ⟨"comment", Statement.quote column.comment⟩ :=
    fits_of_isMethod (by decide) (Php.enclosed_quote _)
  have first : Fits column.firstCall := by
    refine fits_of_isMethod method ?_
    split
    · exact Php.enclosed_plain rfl
    · exact (Php.enclosed_quote _).append (enclosed_laterArguments args)
  have stored : ∀ call ∈ column.defaultCall, Fits call := by
    intro call member
    unfold defaultCall at member
    split at member
    · rename_i text found
      obtain ⟨value, written⟩ := default text found
      have word : "default".toList.all Char.isAlpha = true := by decide
      rw [List.mem_singleton.mp member]
      exact ⟨word, written ▸ value.enclosed, fun _ => ⟨value, written⟩⟩
    · cases member
  rw [statement_eq]
  refine Php.isStatement_chain fun call member => ?_
  simp only [calls, List.mem_cons, List.mem_append] at member
  rcases member with rfl | null | default | said
  · exact first
  · unfold nullableCall at null
    split at null
    · exact List.mem_singleton.mp null ▸ nullable
    · cases null
  · exact stored call default
  · unfold commentCall at said
    split at said
    · cases said
    · exact List.mem_singleton.mp said ▸ comment

end Column

/-! ### Columns of rows -/

/-- The type of a row is supported, and its arguments are numbers and strings. -/
def Dump.ColumnRow.Supported (row : ColumnRow) : Prop :=
  ∃ parts, TypeParts.ofText? row.type = some parts ∧
    Text.lower parts.base ∈ BaseType.supported.map (·.1) ∧
    ∀ value ∈ parts.args.values, TypeArgument (Text.trim value.toList)

/-- A method for numbers finds no default, or one that it can write as it stands. -/
def Dump.ColumnRow.DefaultFits (row : ColumnRow) : Prop :=
  Statement.isNumericMethod (ResolvedType.ofText row.type row.extra).method = true →
    row.default = "NULL" ∨ ∃ value : Php.DefaultValue, value.written = row.default

namespace ResolvedType

theorem isMethod_integerMethod {base : BaseType} {methods : BaseType.IntegerMethods}
    (found : base.integerMethods? = some methods) (modifiers : Option String) (extra : String) :
    Column.IsMethod (integerMethod methods modifiers extra) := by
  have table : ∀ entry ∈ BaseType.integerTable,
      ∀ method ∈ [entry.2.counting, entry.2.unsigned, entry.2.plain], Column.IsMethod method := by
    decide
  exact table (base, methods) (BaseType.integerMethods?_eq_some_iff.mp found) _
    (integerMethod_mem methods modifiers extra)

theorem isMethod_fixedMethod {base : BaseType} {method : String}
    (found : base.fixedMethod? = some method) : Column.IsMethod method := by
  cases base <;> cases found <;> decide

theorem isMethod_ofParts {parts : TypeParts} (extra : String)
    (supported : Text.lower parts.base ∈ BaseType.supported.map (·.1)) :
    Column.IsMethod (ofParts parts extra).method ∧
      ∀ value ∈ (ofParts parts extra).args.values, value ∈ parts.args.values := by
  obtain ⟨⟨name, base⟩, member, named⟩ := List.mem_map.mp supported
  have found : BaseType.ofName parts.base = base := BaseType.ofName_supported member named
  unfold ofParts
  simp only [found]
  split
  · exact ⟨show Column.IsMethod "boolean" by decide, by simp [ColumnArgs.values]⟩
  · cases kind : base.integerMethods? with
    | some methods =>
      exact ⟨isMethod_integerMethod kind parts.modifiers extra, by simp [ColumnArgs.values]⟩
    | none =>
      obtain ⟨method, fixed⟩ := Option.ne_none_iff_exists'.mp (BaseType.fixed_supported _ member kind)
      simp only [fixed]
      refine ⟨isMethod_fixedMethod fixed, ?_⟩
      split
      · simp [ColumnArgs.values]
      · exact fun value kept => kept

end ResolvedType

namespace Column

theorem isStatement_ofRow {row : Dump.ColumnRow} (supported : row.Supported)
    (fits : row.DefaultFits) : IsStatement (ofRow row).statement := by
  obtain ⟨parts, cut, base, args⟩ := supported
  have resolved : ResolvedType.ofText row.type row.extra = ResolvedType.ofParts parts row.extra := by
    rw [ResolvedType.ofText, cut]
  obtain ⟨method, kept⟩ := ResolvedType.isMethod_ofParts row.extra base
  rw [← resolved] at method kept
  refine isStatement method (fun value member => (args value (kept value member)).enclosed_of_trim) ?_
  intro text stored
  have same : row.default ≠ "NULL" ∧ text = row.default := by
    simp only [ofRow, Option.mem_def] at stored
    split at stored
    · cases stored
    · exact ⟨‹_›, (Option.some.inj stored).symm⟩
  obtain ⟨given, rfl⟩ := same
  show ∃ value : Php.DefaultValue, value.written =
    Statement.defaultArgument (ResolvedType.ofText row.type row.extra).method row.default
  cases kind : Statement.isNumericMethod (ResolvedType.ofText row.type row.extra).method with
  | true =>
    rw [Statement.defaultArgument, if_pos kind]
    exact (fits kind).resolve_left given
  | false =>
    obtain ⟨value, written, -⟩ := Php.exists_written kind row.default
    exact ⟨value, written⟩

theorem isStatement_foldInto (column : Column) {method : String}
    (convention : method ∈ conventionMethods) : IsStatement (column.foldInto method).statement := by
  have word : ∀ method ∈ conventionMethods, IsMethod method := by decide
  exact isStatement (word method convention) (by simp [foldInto, ColumnArgs.values])
    (by simp [foldInto])

/-- The statement of a column is whole if the last row of its field has a supported type and a
default that fits. -/
theorem isStatement_of_mem_listOfRows {rows : List Dump.ColumnRow} {column : Column}
    (member : column ∈ listOfRows rows) {row : Dump.ColumnRow}
    (last : Keyed.last? Dump.ColumnRow.field column.field rows = some row)
    (supported : row.Supported) (fits : row.DefaultFits) : IsStatement column.statement := by
  obtain ⟨found, last', declared⟩ := exists_last?_listOfRows rows column member
  obtain rfl : found = row := Option.some.inj (last'.symm.trans last)
  rcases declared with rfl | ⟨method, convention, rfl⟩
  · exact isStatement_ofRow supported fits
  · exact isStatement_foldInto (ofRow found) convention

theorem isStatement_price :
    let row : Dump.ColumnRow :=
      { field := "it's", type := "decimal(8,2)", null := "YES", key := "", default := "1.50"
        extra := "", comment := "');->default(" }
    ofRow row ∈ listOfRows [row] ∧ row.Supported ∧ row.DefaultFits ∧
      IsStatement (ofRow row).statement := by
  intro row
  have member : ofRow row ∈ listOfRows [row] := List.mem_singleton_self (ofRow row)
  have cut : TypeParts.ofText? "decimal(8,2)" = some ⟨"decimal", .list ["8", "2"], none⟩ := by
    decide
  have supported : row.Supported := by
    refine ⟨_, cut, by decide, ?_⟩
    intro value argument
    simp only [ColumnArgs.values, List.mem_cons, List.not_mem_nil, or_false] at argument
    rcases argument with rfl | rfl <;> exact .number (by decide)
  have fits : row.DefaultFits := fun _ => .inr ⟨.number "1.50" (by decide), rfl⟩
  exact ⟨member, supported, fits, isStatement_of_mem_listOfRows member rfl supported fits⟩

/-- A default that is no number breaks the statement of an integer column open. -/
theorem not_isStatement_exit :
    let row : Dump.ColumnRow :=
      { field := "n", type := "int(11)", null := "NO", key := "", default := "1); exit(0"
        extra := "", comment := "" }
    row.Supported ∧ ofRow row ∈ listOfRows [row] ∧ ¬IsStatement (ofRow row).statement := by
  intro row
  have cut : TypeParts.ofText? "int(11)" = some ⟨"int", .scalar "11", none⟩ := by decide
  have supported : row.Supported := by
    refine ⟨_, cut, by decide, ?_⟩
    intro value argument
    rw [List.mem_singleton.mp argument]
    exact .number (by decide)
  refine ⟨supported, List.mem_singleton_self (ofRow row), fun statement => ?_⟩
  have written : (ofRow row).statement = "$table->integer('n')->default(1); exit(0);" := by decide
  obtain ⟨front, shape, once⟩ := statement.ended
  have ends : (Php.tokens .code (ofRow row).statement.toList).count (.mark ';') = 2 := by
    rw [written]
    decide
  rw [shape, List.count_append, List.count_eq_zero.mpr once] at ends
  exact absurd ends (by decide)

end Column

end TableMigration
