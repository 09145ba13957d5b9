import TableMigration.Proofs.Column.Dispatch
import TableMigration.Proofs.Column.Reading
import TableMigration.Proofs.Column.Reparse

/-!
# Spaces around the arguments of a type

Spaces around an argument are trimmed off where commas cut it off from others, and stay where it
stands alone. So a type means the same with such spaces and without them unless its one argument is
kept (`Column.ofRow_padded`).
-/

namespace TableMigration

/-- An argument of a type in full: a number, with a sign or an exponent if it has one, or a
string. -/
inductive SqlLiteral : List Char → Prop where
  | number {s : List Char} (numeric : Statement.isNumeric (String.ofList s) = true)
      (flush : ∀ c ∈ s.head?, Text.isBlank c = false) : SqlLiteral s
  | string {body : List Char} (inside : StringBody body) : SqlLiteral (EnumText.quoted body)

/-- An argument with spaces around it. -/
structure PaddedArgument where
  before : Nat
  text : List Char
  after : Nat
  literal : SqlLiteral text

/-! ### Literals -/

theorem StringBody.hides {mark : Char} (other : mark ≠ '\'') {body : List Char}
    (h : StringBody body) : Quoting.inside.Hides mark body := by
  induction h with
  | nil => trivial
  | plain quote backslash _ ih => simpa [Quoting.Hides, Quoting.next, quote, backslash] using ih
  | doubled _ ih => simpa [Quoting.Hides, Quoting.next, other.symm] using ih
  | escaped c _ ih => simpa [Quoting.Hides, Quoting.next] using ih

namespace SqlLiteral

variable {s : List Char}

theorem isNumeralChar (numeric : Statement.isNumeric (String.ofList s) = true)
    (flush : ∀ c ∈ s.head?, Text.isBlank c = false) :
    ∀ c ∈ s, Statement.isNumeralChar c = true := by
  have numerals := Statement.isNumeralChar_of_isNumeric numeric
  rw [String.toList_ofList] at numerals
  cases s with
  | nil => simp
  | cons c rest => rwa [Text.trimStart_of_not_blank (flush c rfl)] at numerals

theorem separates (h : SqlLiteral s) : Quoting.outside.Separates s := by
  cases h with
  | number numeric flush =>
    have absent : ∀ mark, Statement.isNumeralChar mark = false → mark ∉ s := by
      intro mark other member
      rw [isNumeralChar numeric flush mark member] at other
      cases other
    exact ⟨Quoting.closes_plain (absent _ (by decide)) (absent _ (by decide)),
      Quoting.hides_of_not_mem (absent _ (by decide))⟩
  | string inside => exact EnumText.separates_quoted fun _ other => ⟨inside.after, inside.hides other⟩

theorem trim (h : SqlLiteral s) : Text.trim s = s := by
  cases h with
  | number numeric flush =>
    exact Text.trim_of_not_blank fun c member =>
      Statement.isBlank_of_isNumeralChar (isNumeralChar numeric flush c member)
  | @string body _ => simpa using EnumText.trim_quoted 0 0 body

theorem ne_nil (h : SqlLiteral s) : s ≠ [] := by
  cases h with
  | number numeric =>
    rintro rfl
    exact absurd numeric (by decide)
  | string => exact List.cons_ne_nil _ _

end SqlLiteral

/-! ### Lists of padded arguments -/

namespace PaddedArgument

def written (argument : PaddedArgument) : List Char :=
  List.replicate argument.before ' ' ++ (argument.text ++ List.replicate argument.after ' ')

/-- The argument without its spaces. -/
def flush (argument : PaddedArgument) : PaddedArgument :=
  { argument with before := 0, after := 0 }

def IsPadded (argument : PaddedArgument) : Prop :=
  argument.before ≠ 0 ∨ argument.after ≠ 0

/-- What a list of arguments puts between the parentheses of a type. -/
def body (arguments : List PaddedArgument) : List Char :=
  [','].intercalate (arguments.map written)

variable {argument : PaddedArgument} {arguments : List PaddedArgument}

theorem written_flush (argument : PaddedArgument) : argument.flush.written = argument.text := by
  simp [written, flush]

theorem trim_written (argument : PaddedArgument) : Text.trim argument.written = argument.text := by
  rw [written, Text.trim_pad (fun _ => Text.blank_of_mem_replicate) fun _ =>
    Text.blank_of_mem_replicate, argument.literal.trim]

theorem written_eq_text_iff : argument.written = argument.text ↔ ¬argument.IsPadded := by
  constructor
  · intro same
    have lengths := congrArg List.length same
    simp only [written, List.length_append, List.length_replicate] at lengths
    unfold IsPadded
    omega
  · intro tight
    obtain ⟨before, after⟩ : argument.before = 0 ∧ argument.after = 0 := by
      simpa [IsPadded] using tight
    simp [written, before, after]

theorem mem_written_iff {c : Char} (mark : c ≠ ' ') : c ∈ argument.written ↔ c ∈ argument.text := by
  simp [written, List.mem_replicate, mark]

theorem separates_written (argument : PaddedArgument) :
    Quoting.outside.Separates argument.written :=
  (Quoting.separates_spaces _).append (argument.literal.separates.append (Quoting.separates_spaces _))

theorem body_cons_cons (argument next : PaddedArgument) (rest : List PaddedArgument) :
    body (argument :: next :: rest) = argument.written ++ ',' :: body (next :: rest) := by
  rw [body, List.map_cons, List.map_cons, List.intercalate_cons_cons, List.append_assoc]
  rfl

theorem body_singleton (argument : PaddedArgument) : body [argument] = argument.written := by
  rw [body, List.map_singleton, List.intercalate_singleton]

theorem closes_body (arguments : List PaddedArgument) :
    Quoting.outside.Closes (body arguments) := by
  induction arguments with
  | nil => exact Quoting.closes_plain (by simp [body]) (by simp [body])
  | cons argument rest ih =>
    have first := (separates_written argument).toCloses
    cases rest with
    | nil => rwa [body_singleton]
    | cons next rest =>
      have comma : Quoting.outside.Closes [','] := Quoting.closes_plain (by decide) (by decide)
      rw [body_cons_cons]
      exact first.append (comma.append ih)

theorem mem_body_iff {c : Char} (mark : c ≠ ' ') (other : c ≠ ',') :
    c ∈ body arguments ↔ ∃ argument ∈ arguments, c ∈ argument.text := by
  induction arguments with
  | nil => simp [body]
  | cons argument rest ih =>
    cases rest with
    | nil => simp [body_singleton, mem_written_iff mark]
    | cons next rest =>
      rw [body_cons_cons, List.mem_append, List.mem_cons, ih, mem_written_iff mark]
      simp [other]

theorem splitCommas_body (nonempty : arguments ≠ []) :
    splitCommas .outside (body arguments) = arguments.map written := by
  refine splitCommas_intercalate (by simpa using nonempty) ?_ ?_ <;>
    refine List.forall_mem_map.mpr fun argument _ => ?_
  · exact wholeStrings_iff.mpr (separates_written argument).ends
  · exact placesOutside_eq_nil_iff.mpr (separates_written argument).commas

/-! ### Reading them -/

/-- The one argument of a type keeps its spaces when it holds no comma. -/
def KeepsSpaces (arguments : List PaddedArgument) : Prop :=
  ∃ argument, arguments = [argument] ∧ ',' ∉ argument.text ∧ argument.IsPadded

theorem ofBody_written (single : ',' ∉ argument.text) :
    ColumnArgs.ofBody argument.written = .scalar (String.ofList argument.written) := by
  have comma : ',' ∉ argument.written := (mem_written_iff (by decide)).not.mpr single
  rw [ColumnArgs.ofBody, trim_written, if_neg (by simpa using argument.literal.ne_nil),
    if_pos (by simpa using comma)]

theorem ofBody_body (comma : ',' ∈ body arguments) :
    ColumnArgs.ofBody (body arguments) = .list (arguments.map fun a => String.ofList a.text) := by
  have nonempty : arguments ≠ [] := by
    rintro rfl
    cases comma
  have nonblank : Text.trim (body arguments) ≠ [] := fun blank =>
    absurd (Text.trim_eq_nil_iff.mp blank _ comma) (by decide)
  rw [ColumnArgs.ofBody, if_neg (by simpa using nonblank), if_neg (by simpa using comma),
    splitCommas_body nonempty, List.map_map]
  refine congrArg ColumnArgs.list (List.map_congr_left fun argument _ => ?_)
  rw [Function.comp_apply, trim_written]

theorem single_or_comma (nonempty : arguments ≠ []) :
    (∃ argument, arguments = [argument] ∧ ',' ∉ argument.text) ∨
      ',' ∈ body arguments ∧ ',' ∈ body (arguments.map flush) := by
  rcases arguments with _ | ⟨argument, _ | ⟨next, rest⟩⟩
  · exact absurd rfl nonempty
  · by_cases comma : ',' ∈ argument.text
    · refine .inr ⟨?_, ?_⟩
      · rwa [body_singleton, mem_written_iff (by decide)]
      · rwa [List.map_singleton, body_singleton, written_flush]
    · exact .inl ⟨argument, rfl, comma⟩
  · exact .inr ⟨by simp [body_cons_cons], by simp [body_cons_cons]⟩

theorem ofBody_flush_iff (nonempty : arguments ≠ []) :
    ColumnArgs.ofBody (body arguments) = .ofBody (body (arguments.map flush)) ↔
      ¬KeepsSpaces arguments := by
  -- One argument without a comma is taken as it stands; pieces between commas are trimmed.
  rcases single_or_comma nonempty with ⟨argument, rfl, single⟩ | ⟨padded, plain⟩
  · have bare : ',' ∉ argument.flush.text := single
    have kept : KeepsSpaces [argument] ↔ argument.IsPadded := by simp [KeepsSpaces, single]
    rw [List.map_singleton, body_singleton, body_singleton, ofBody_written single,
      ofBody_written bare, written_flush, kept, ← written_eq_text_iff, ColumnArgs.scalar.injEq,
      String.ofList_inj]
  · have several : ¬KeepsSpaces arguments := by
      rintro ⟨argument, rfl, single, -⟩
      rw [body_singleton, mem_written_iff (by decide)] at padded
      exact single padded
    rw [ofBody_body padded, ofBody_body plain, List.map_map]
    exact iff_of_true rfl several

theorem isBooleanWidth_flush (nonempty : arguments ≠ []) :
    ResolvedType.isBooleanWidth (.ofBody (body arguments)) =
      ResolvedType.isBooleanWidth (.ofBody (body (arguments.map flush))) := by
  rcases single_or_comma nonempty with ⟨argument, rfl, -⟩ | ⟨padded, plain⟩
  · rw [Bool.eq_iff_iff, ResolvedType.isBooleanWidth_ofBody, ResolvedType.isBooleanWidth_ofBody,
      List.map_singleton, body_singleton, body_singleton, trim_written, trim_written]
    rfl
  · rw [ofBody_body padded, ofBody_body plain]
    rfl

theorem argumentBody_body (lines : ∀ argument ∈ arguments, '\n' ∉ argument.text) :
    ArgumentBody (body arguments) := by
  obtain ⟨strings, close⟩ := closes_iff.mp (closes_body arguments)
  refine ⟨?_, strings, close⟩
  rw [mem_body_iff (by decide) (by decide)]
  rintro ⟨argument, member, line⟩
  exact lines argument member line

end PaddedArgument

/-! ### Arguments in a statement -/

namespace EnumText

theorem eq_quoted_of_insideQuotes? {s inner : List Char}
    (found : Statement.insideQuotes? s = some inner) : s = quoted inner := by
  unfold Statement.insideQuotes? at found
  split at found
  · rename_i rest
    split at found
    · rename_i last
      obtain rfl := Option.some.inj found
      rw [quoted, List.dropLast_append_getLast? _ last]
    · cases found
  · cases found

/-- A value with blanks around it is no quoted one. -/
theorem enumValue_of_trim_ne {raw : String} (padded : Text.trim raw.toList ≠ raw.toList) :
    Statement.enumValue raw = raw := by
  rw [Statement.enumValue]
  split
  · rename_i inner found
    rw [eq_quoted_of_insideQuotes? found] at padded
    exact absurd (by simpa using trim_quoted 0 0 inner) padded
  · rfl

theorem trim_enumValue {raw : String} (tight : Text.trim raw.toList = raw.toList) :
    Text.trim (Statement.enumValue raw).toList = (Statement.enumValue raw).toList := by
  rcases enumValue_eq raw with same | ⟨value, quoted⟩
  · rw [same, tight]
  · rw [quoted, trim_quote]

end EnumText

namespace Column

theorem laterArguments_eq_of_statement {column : Column} (named : column.name ≠ "")
    (rawType : String) (args : ColumnArgs)
    (same : { column with rawType, args }.statement = column.statement) :
    laterArguments column.method args = laterArguments column.method column.args := by
  have shape := @toList_statement { column with rawType, args } named
  rw [same, toList_statement named] at shape
  have later := List.append_cancel_left (List.append_cancel_left shape)
  have closed := String.toList_inj.mp (List.append_cancel_right later)
  rw [← String.toList_inj, String.toList_append, String.toList_append] at closed
  exact (String.toList_inj.mp (List.append_cancel_right closed)).symm

theorem laterArguments_padded {argument : PaddedArgument} (padded : argument.IsPadded)
    (method : String) :
    laterArguments method (.scalar (String.ofList argument.written)) ≠
      laterArguments method (.scalar (String.ofList argument.text)) := by
  have apart : argument.written ≠ argument.text :=
    mt PaddedArgument.written_eq_text_iff.mp (not_not_intro padded)
  intro same
  -- An enumeration quotes its values anew, but not one with blanks around it.
  by_cases enum : method = "enum"
  · have loose : Text.trim (String.ofList argument.written).toList ≠
        (String.ofList argument.written).toList := by
      rw [String.toList_ofList, argument.trim_written]
      exact apart.symm
    have tight : Text.trim (String.ofList argument.text).toList =
        (String.ofList argument.text).toList := by
      rw [String.toList_ofList, argument.literal.trim]
    rw [enum, laterArguments, laterArguments, EnumText.columnArgs_enum,
      EnumText.columnArgs_enum] at same
    have shown : Statement.enumValue (String.ofList argument.written) =
        Statement.enumValue (String.ofList argument.text) := by
      rw [← String.toList_inj] at same ⊢
      simpa [ColumnArgs.values, Statement.bracketed] using same
    rw [EnumText.enumValue_of_trim_ne loose] at shown
    exact loose (shown ▸ EnumText.trim_enumValue tight)
  · refine apart ?_
    rw [← String.toList_inj] at same
    simpa [laterArguments, Statement.columnArgs, enum] using same

theorem ofRow_alike {row : Dump.ColumnRow} {type : String}
    (method : (ResolvedType.ofText type row.extra).method =
      (ResolvedType.ofText row.type row.extra).method)
    (unsigned : (ResolvedType.ofText type row.extra).unsigned =
      (ResolvedType.ofText row.type row.extra).unsigned) :
    ofRow { row with type } =
      { ofRow row with rawType := type, args := (ResolvedType.ofText type row.extra).args } := by
  unfold ofRow
  dsimp only
  rw [method, unsigned]

end Column

/-! ### Types -/

namespace ResolvedType

open PaddedArgument

/-- A type of this name takes its arguments along, and the one it has keeps its spaces. -/
def ShowsSpaces (name : String) (arguments : List PaddedArgument) : Prop :=
  Text.lower name ∉ BaseType.bareNames ∧ KeepsSpaces arguments

variable {parts other : TypeParts} {arguments : List PaddedArgument}

theorem args_ofParts_eq_iff (supported : Text.lower parts.base ∈ BaseType.supported.map (·.1))
    (base : other.base = parts.base) (extra : String) :
    (ofParts parts extra).args = (ofParts other extra).args ↔
      (Text.lower parts.base ∉ BaseType.bareNames → parts.args = other.args) := by
  rw [args_ofParts supported, args_ofParts (base ▸ supported), base]
  by_cases bare : Text.lower parts.base ∈ BaseType.bareNames <;> simp [bare]

theorem ofParts_padded (supported : Text.lower parts.base ∈ BaseType.supported.map (·.1))
    (base : other.base = parts.base) (modifiers : other.modifiers = parts.modifiers)
    (padded : parts.args = .ofBody (body arguments))
    (plain : other.args = .ofBody (body (arguments.map flush))) (nonempty : arguments ≠ [])
    (extra : String) :
    (ofParts parts extra).base = (ofParts other extra).base ∧
      (ofParts parts extra).method = (ofParts other extra).method ∧
      (ofParts parts extra).unsigned = (ofParts other extra).unsigned ∧
      ((ofParts parts extra).args = (ofParts other extra).args ↔
        ¬ShowsSpaces parts.base arguments) := by
  have boolean : IsBoolean parts ↔ IsBoolean other := by
    rw [IsBoolean, IsBoolean, base, padded, plain, isBooleanWidth_flush nonempty]
  obtain ⟨method, unsigned⟩ := ofParts_alike_iff parts other base modifiers extra
  refine ⟨by rw [base_ofParts, base_ofParts, base], method.mpr boolean, unsigned.mpr boolean, ?_⟩
  rw [args_ofParts_eq_iff supported base, padded, plain, ofBody_flush_iff nonempty, ShowsSpaces,
    not_and]

theorem args_ofParts_kept (supported : Text.lower parts.base ∈ BaseType.supported.map (·.1))
    (base : other.base = parts.base) (padded : parts.args = .ofBody (body arguments))
    (plain : other.args = .ofBody (body (arguments.map flush)))
    (shows : ShowsSpaces parts.base arguments) (extra : String) :
    ∃ argument : PaddedArgument, argument.IsPadded ∧
      (ofParts parts extra).args = .scalar (String.ofList argument.written) ∧
      (ofParts other extra).args = .scalar (String.ofList argument.text) := by
  obtain ⟨taken, argument, rfl, single, spaced⟩ := shows
  have bare : ',' ∉ argument.flush.text := single
  refine ⟨argument, spaced, ?_, ?_⟩
  · rw [args_ofParts supported, if_neg taken, padded, body_singleton, ofBody_written single]
  · rw [args_ofParts (base ▸ supported), base, if_neg taken, plain, List.map_singleton,
      body_singleton, ofBody_written bare, written_flush]

theorem ofText_padded {word tail : List Char} (letters : ∀ c ∈ word, Text.isWordChar c = true)
    (supported : Text.lower (String.ofList word) ∈ BaseType.supported.map (·.1))
    (line : '\n' ∉ tail) (nonempty : arguments ≠ [])
    (lines : ∀ argument ∈ arguments, '\n' ∉ argument.text) (extra : String) :
    let first := ofText (calledType word (body arguments) tail) extra
    let second := ofText (calledType word (body (arguments.map flush)) tail) extra
    (first.base = second.base ∧ first.method = second.method ∧
      first.unsigned = second.unsigned ∧
      (first.args = second.args ↔ ¬ShowsSpaces (String.ofList word) arguments)) ∧
    (ShowsSpaces (String.ofList word) arguments →
      ∃ argument : PaddedArgument, argument.IsPadded ∧
        first.args = .scalar (String.ofList argument.written) ∧
        second.args = .scalar (String.ofList argument.text)) := by
  have started := BaseType.ne_nil_of_supported supported
  have cut : ∀ arguments, (∀ argument ∈ arguments, '\n' ∉ argument.text) →
      ∃ parts, TypeParts.ofText? (calledType word (body arguments) tail) = some parts ∧
        parts.base = String.ofList word ∧ parts.args = .ofBody (body arguments) ∧
        parts.modifiers = modifiersOf tail := fun arguments lines =>
    ⟨_, ofText?_calledType started letters (argumentBody_body lines) line, rfl, rfl, rfl⟩
  have lines' : ∀ argument ∈ arguments.map flush, '\n' ∉ argument.text :=
    List.forall_mem_map.mpr lines
  obtain ⟨parts, found, named, padded, modifiers⟩ := cut arguments lines
  obtain ⟨other, found', named', plain, modifiers'⟩ := cut _ lines'
  have base : other.base = parts.base := named'.trans named.symm
  rw [← named] at supported ⊢
  simp only [ofText, found, found']
  exact ⟨ofParts_padded supported base (modifiers'.trans modifiers.symm) padded plain nonempty extra,
    fun shows => args_ofParts_kept supported base padded plain shows extra⟩

theorem ofText_lineFeed {word tail body : List Char} (nonempty : word ≠ [])
    (letters : ∀ c ∈ word, Text.isWordChar c = true) (line : '\n' ∈ body) (extra : String) :
    ofText (calledType word body tail) extra =
      ofUnknown (Text.lower (Text.trimmed (calledType word body tail))) := by
  have unread : TypeParts.ofText? (calledType word body tail) = none := by
    rw [← Option.not_isSome_iff_eq_none, TypeParts.isSome_ofText?_iff]
    rintro ⟨-, absent, -⟩
    rw [calledType, String.toList_ofList, trim_called nonempty letters] at absent
    simp [line] at absent
  rw [ofText, unread]

end ResolvedType

/-! ### Columns -/

namespace Column

theorem isTokenColumn_padded {argument : PaddedArgument} (padded : argument.IsPadded)
    {column : Column} (args : column.args = .scalar (String.ofList argument.written)) :
    column.isTokenColumn = false := by
  have other : String.ofList argument.written ≠ "100" := by
    intro same
    have written : argument.written = "100".toList := by rw [← same, String.toList_ofList]
    have text : argument.text = "100".toList := by
      rw [← argument.trim_written, written]
      decide
    exact PaddedArgument.written_eq_text_iff.mp (written.trans text.symm) padded
  simp [isTokenColumn, args, other]

theorem statement_padded_iff {argument : PaddedArgument} (padded : argument.IsPadded)
    {column : Column} (args : column.args = .scalar (String.ofList argument.text))
    (rawType : String) :
    { column with rawType, args := .scalar (String.ofList argument.written) }.statement =
      column.statement ↔ column.name = "" := by
  constructor
  · intro same
    by_contra named
    have later := laterArguments_eq_of_statement named rawType _ same
    rw [args] at later
    exact laterArguments_padded padded column.method later
  · intro unnamed
    simp only [statement, unnamed, if_true]

theorem ofRow_spaced {row : Dump.ColumnRow} {type : String} {shows : Prop}
    (method : (ResolvedType.ofText type row.extra).method =
      (ResolvedType.ofText row.type row.extra).method)
    (unsigned : (ResolvedType.ofText type row.extra).unsigned =
      (ResolvedType.ofText row.type row.extra).unsigned)
    (args : ¬shows → (ResolvedType.ofText type row.extra).args =
      (ResolvedType.ofText row.type row.extra).args)
    (kept : shows → ∃ argument : PaddedArgument, argument.IsPadded ∧
      (ResolvedType.ofText type row.extra).args = .scalar (String.ofList argument.written) ∧
      (ResolvedType.ofText row.type row.extra).args = .scalar (String.ofList argument.text)) :
    ((ofRow { row with type }).isTokenColumn = true ↔
        (ofRow row).isTokenColumn = true ∧ ¬shows) ∧
      ((ofRow { row with type }).statement = (ofRow row).statement ↔ row.field = "" ∨ ¬shows) := by
  have alike := ofRow_alike method unsigned
  by_cases shown : shows
  · obtain ⟨argument, spaced, written, text⟩ := kept shown
    have token : (ofRow { row with type }).isTokenColumn = false :=
      isTokenColumn_padded spaced written
    have shownIn : (ofRow { row with type }).statement = (ofRow row).statement ↔ row.field = "" := by
      rw [alike, written]
      exact statement_padded_iff spaced text type
    simp [token, shownIn, shown]
  · have same : ofRow { row with type } = { ofRow row with rawType := type } := by
      rw [alike, args shown]
      rfl
    simp only [same, shown, not_false_eq_true, and_true, or_true, iff_true]
    exact ⟨Iff.rfl, rfl⟩

/-- Types of supported names mean the same with spaces around their arguments and without them,
unless they take along one argument without a comma, with spaces around it. Such spaces stay in the
arguments, so the column is no token column, and they stand in its statement. A line feed in a
string keeps the type from being read, with spaces or without them. -/
theorem ofRow_padded (word tail : List Char) (letters : ∀ c ∈ word, Text.isWordChar c = true)
    (supported : Text.lower (String.ofList word) ∈ BaseType.supported.map (·.1))
    (line : '\n' ∉ tail) (arguments : List PaddedArgument) (nonempty : arguments ≠ [])
    (extra : String) :
    let padded := calledType word (PaddedArgument.body arguments) tail
    let plain := calledType word (PaddedArgument.body (arguments.map PaddedArgument.flush)) tail
    let first := ResolvedType.ofText padded extra
    let second := ResolvedType.ofText plain extra
    let shows := ResolvedType.ShowsSpaces (String.ofList word) arguments
    ((∀ argument ∈ arguments, '\n' ∉ argument.text) →
      first.base = second.base ∧ first.method = second.method ∧
        first.unsigned = second.unsigned ∧ (first.args = second.args ↔ ¬shows) ∧
        ∀ row : Dump.ColumnRow,
          let declared := ofRow { row with type := padded, extra }
          let declared' := ofRow { row with type := plain, extra }
          (declared.isTokenColumn = true ↔ declared'.isTokenColumn = true ∧ ¬shows) ∧
            (declared.statement = declared'.statement ↔ row.field = "" ∨ ¬shows)) ∧
    ((∃ argument ∈ arguments, '\n' ∈ argument.text) →
      first = ResolvedType.ofUnknown (Text.lower (Text.trimmed padded)) ∧
        second = ResolvedType.ofUnknown (Text.lower (Text.trimmed plain))) := by
  intro padded plain first second shows
  constructor
  · intro lines
    obtain ⟨⟨base, method, unsigned, args⟩, kept⟩ :=
      ResolvedType.ofText_padded letters supported line nonempty lines extra
    refine ⟨base, method, unsigned, args, ?_⟩
    intro row
    exact @ofRow_spaced { row with type := plain, extra } padded shows method unsigned args.mpr kept
  · rintro ⟨argument, member, feed⟩
    have started := BaseType.ne_nil_of_supported supported
    have feeds : '\n' ∈ PaddedArgument.body arguments :=
      (PaddedArgument.mem_body_iff (by decide) (by decide)).mpr ⟨argument, member, feed⟩
    have feeds' : '\n' ∈ PaddedArgument.body (arguments.map PaddedArgument.flush) :=
      (PaddedArgument.mem_body_iff (by decide) (by decide)).mpr
        ⟨argument.flush, List.mem_map_of_mem member, feed⟩
    exact ⟨ResolvedType.ofText_lineFeed started letters feeds extra,
      ResolvedType.ofText_lineFeed started letters feeds' extra⟩

theorem ofRow_padded_enum :
    let padded := "Enum(  'it''s, )' ,-1.5e3   ) binary"
    let plain := "Enum('it''s, )',-1.5e3) binary"
    let first := ResolvedType.ofText padded ""
    let second := ResolvedType.ofText plain ""
    first.method = second.method ∧ first.args = second.args ∧ first.unsigned = second.unsigned ∧
      ∀ row : Dump.ColumnRow, (ofRow { row with type := padded, extra := "" }).statement =
        (ofRow { row with type := plain, extra := "" }).statement := by
  have inside : StringBody "it''s, )".toList :=
    .plain (by decide) (by decide) <| .plain (by decide) (by decide) <| .doubled <|
      .plain (by decide) (by decide) <| .plain (by decide) (by decide) <|
        .plain (by decide) (by decide) <| .plain (by decide) (by decide) .nil
  have letters : ∀ c ∈ "Enum".toList, Text.isWordChar c = true :=
    Text.isWordChar_of_letters (by decide)
  have first : ∀ c ∈ "-1.5e3".toList.head?, Text.isBlank c = false := by
    intro c head
    rw [← Option.some.inj head]
    decide
  let arguments : List PaddedArgument :=
    [⟨2, _, 1, .string inside⟩, ⟨0, _, 3, .number (by decide +kernel) first⟩]
  have lines : ∀ argument ∈ arguments, '\n' ∉ argument.text := by
    simp [arguments, EnumText.quoted]
  have several : ¬ResolvedType.ShowsSpaces (String.ofList "Enum".toList) arguments := by
    rintro ⟨-, argument, single, -⟩
    simp [arguments] at single
  have spaced : calledType "Enum".toList (PaddedArgument.body arguments) " binary".toList =
      "Enum(  'it''s, )' ,-1.5e3   ) binary" := by
    simp only [arguments, PaddedArgument.body, List.map_cons, List.map_nil, PaddedArgument.written]
    decide +kernel
  have tight : calledType "Enum".toList
      (PaddedArgument.body (arguments.map PaddedArgument.flush)) " binary".toList =
        "Enum('it''s, )',-1.5e3) binary" := by
    simp only [arguments, PaddedArgument.body, List.map_cons, List.map_nil,
      PaddedArgument.written_flush]
    decide +kernel
  have whole := (ofRow_padded "Enum".toList " binary".toList letters (by decide) (by decide)
    arguments (List.cons_ne_nil _ _) "").1 lines
  dsimp only at whole
  rw [spaced, tight] at whole
  obtain ⟨-, method, unsigned, args, declared⟩ := whole
  exact ⟨method, args.mpr several, unsigned, fun row => (declared row).2.mpr (.inr several)⟩

/-- A single argument keeps its spaces, so the width of a token column is not found. -/
theorem isTokenColumn_padded_ne :
    let row (type : String) : Dump.ColumnRow :=
      { field := "remember_token", type, null := "YES", key := "", default := "NULL", extra := ""
        comment := "" }
    (ofRow (row "varchar(100)")).args = .scalar "100" ∧
      (ofRow (row "varchar( 100 )")).args = .scalar " 100 " ∧
      (ofRow (row "varchar(100)")).isTokenColumn = true ∧
      (ofRow (row "varchar( 100 )")).isTokenColumn = false := by
  decide +kernel

end Column

end TableMigration
