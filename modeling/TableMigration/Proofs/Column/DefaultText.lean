import TableMigration.Proofs.Column.Conventions
import TableMigration.Proofs.Column.Reading
import TableMigration.Proofs.Text.Trim

/-!
# Texts that columns have by default

A default that is neither a number, a truth value nor the current time stands in the statement of
its column as a literal. The literal is that of the default without the blanks at its ends, so it
reads back as the default exactly if there are none (`readDefaultText?_listOfRows`).
-/

namespace TableMigration.Column

/-- Reads the call that names the column off the front of a statement. A column without a name has
no argument there. -/
def readFirst? (method : String) (args : ColumnArgs) (statement : List Char) :
    Option (List Char) := do
  let s ← Php.take? ("$table->" ++ method ++ "(") statement
  match Php.readLiteral? s with
  | some (_, s) => Php.take? (laterArguments method args ++ ")") s
  | none => Php.take? ")" s

/-- Reads the default from the statement of a column whose method and arguments are known, if it is
a literal. -/
def readDefaultText? (method : String) (args : ColumnArgs) (statement : String) :
    Option String := do
  let s ← readFirst? method args statement.toList
  let (_, s) ← readCall? "nullable" (fun s => some ((), s)) s
  let (default, _) ← readCall? "default" Php.readLiteral? s
  default

theorem readFirst?_statement (column : Column) :
    readFirst? column.method column.args column.statement.toList =
      some (Statement.chain
        (column.nullableCall ++ (column.defaultCall ++ column.commentCall))).toList := by
  by_cases named : column.name = ""
  · have shape : column.statement.toList = ("$table->" ++ column.method ++ "(").toList ++
        (")".toList ++ (Statement.chain
          (column.nullableCall ++ (column.defaultCall ++ column.commentCall))).toList) := by
      rw [statement_eq, calls, String.toList_append, Statement.toList_chain_cons, firstCall]
      simp [named]
    rw [readFirst?, shape, Php.take?_append]
    exact Php.take?_append ")" _
  · rw [readFirst?, toList_statement named, Php.take?_append]
    simp only [Option.bind_eq_bind, Option.bind_some, Php.readLiteral?_quote, Php.take?_append]

theorem readDefaultText?_statement {column : Column} {default value : String}
    (stored : column.defaultValue = some default)
    (written : Statement.defaultArgument column.method default = Statement.quote value) :
    readDefaultText? column.method column.args column.statement = some value := by
  have call : column.defaultCall = [⟨"default", Statement.quote value⟩] := by
    rw [defaultCall, stored, ← written]
  obtain ⟨nullable, nullableRead, -⟩ := readCall?_nullable column
  have defaultRead : readCall? "default" Php.readLiteral?
      (Statement.chain (column.defaultCall ++ column.commentCall)).toList =
        some (some value, (Statement.chain column.commentCall).toList) := by
    rw [call]
    exact readCall?_cons (Php.readLiteral?_quote value _)
  rw [readDefaultText?, readFirst?_statement]
  simp only [Option.bind_eq_bind, Option.bind_some, nullableRead, defaultRead]

theorem defaultArgument_text {method default : String}
    (numeric : Statement.isNumericMethod method = false) (boolean : method ≠ "boolean")
    (now : (Text.trim default.toList).map Char.toLower ≠ "current_timestamp".toList) :
    Statement.defaultArgument method default = Statement.quote (Text.trimmed default) := by
  have later : ¬Statement.saysNow (Text.trim default.toList) = true := by
    rw [Statement.saysNow, beq_iff_eq]
    exact now
  rw [Statement.defaultArgument, if_neg (by simp [numeric]), if_neg boolean, if_neg later]
  rfl

/-- The default of a row that declares its column unfolded, by a method that is neither for numbers
nor for truth values, is the text of a literal in the statement of the column. The literal has all
of the default but for the blanks at its ends. -/
theorem readDefaultText?_listOfRows {rows : List Dump.ColumnRow} {column : Column}
    {row : Dump.ColumnRow} (member : column ∈ listOfRows rows)
    (last : Keyed.last? Dump.ColumnRow.field column.field rows = some row)
    (unfolded : ∀ method ∈ conventionMethods, column ≠ (ofRow row).foldInto method)
    (numeric : Statement.isNumericMethod (ResolvedType.ofText row.type row.extra).method = false)
    (boolean : (ResolvedType.ofText row.type row.extra).method ≠ "boolean")
    (given : row.default ≠ "NULL")
    (now : (Text.trim row.default.toList).map Char.toLower ≠ "current_timestamp".toList) :
    readDefaultText? column.method column.args column.statement = some (Text.trimmed row.default) ∧
      (readDefaultText? column.method column.args column.statement = some row.default ↔
        (∀ c ∈ row.default.toList.head?, Text.isBlank c = false) ∧
          ∀ c ∈ row.default.toList.getLast?, Text.isBlank c = false) := by
  obtain ⟨declaring, last', declared⟩ := exists_last?_listOfRows rows column member
  obtain rfl : declaring = row := Option.some.inj (last'.symm.trans last)
  obtain rfl : column = ofRow declaring := by
    rcases declared with plain | ⟨method, convention, folded⟩
    · exact plain
    · exact absurd folded (unfolded method convention)
  have stored : (ofRow declaring).defaultValue = some declaring.default := if_neg given
  have read := readDefaultText?_statement stored (defaultArgument_text numeric boolean now)
  refine ⟨read, ?_⟩
  rw [read, Option.some.injEq, Text.trimmed, ← String.toList_inj, String.toList_ofList,
    Text.trim_eq_self_iff]

theorem readDefaultText?_listOfRows_label :
    let row : Dump.ColumnRow :=
      { field := "label", type := "varchar(10)", null := "YES", key := "", default := "\\'a  b\\"
        extra := "", comment := "');->default('c'" }
    ofRow row ∈ listOfRows [row] ∧
      readDefaultText? "string" (.scalar "10") (ofRow row).statement = some "\\'a  b\\" := by
  intro row
  have resolved : ResolvedType.ofText row.type row.extra =
      ⟨.varchar, "string", .scalar "10", none⟩ := by decide +kernel
  have member : ofRow row ∈ listOfRows [row] := List.mem_singleton_self (ofRow row)
  have unfolded : ∀ method ∈ conventionMethods, ofRow row ≠ (ofRow row).foldInto method := by
    intro method _ same
    have name : "label" = "" := congrArg Column.name same
    exact absurd name (by decide)
  have numeric : Statement.isNumericMethod (ResolvedType.ofText row.type row.extra).method =
      false := by
    rw [resolved]
    decide +kernel
  have boolean : (ResolvedType.ofText row.type row.extra).method ≠ "boolean" := by
    rw [resolved]
    decide
  have ends : (∀ c ∈ "\\'a  b\\".toList.head?, Text.isBlank c = false) ∧
      ∀ c ∈ "\\'a  b\\".toList.getLast?, Text.isBlank c = false := by
    constructor <;> intro c tip <;> rw [← Option.some.inj tip] <;> decide
  have read := (readDefaultText?_listOfRows member rfl unfolded numeric boolean (by decide)
    (by decide +kernel)).2.mpr ends
  have method : (ofRow row).method = "string" := congrArg ResolvedType.method resolved
  have args : (ofRow row).args = .scalar "10" := congrArg ResolvedType.args resolved
  rw [method, args] at read
  exact ⟨member, read⟩

/-- The spaces at the ends of a default are lost. -/
theorem readDefaultText?_spaces_ne :
    let row : Dump.ColumnRow :=
      { field := "n", type := "varchar(10)", null := "NO", key := "", default := " a "
        extra := "", comment := "" }
    listOfRows [row] = [ofRow row] ∧
      (ofRow row).statement = "$table->string('n', 10)->default('a');" ∧
      readDefaultText? "string" (.scalar "10") (ofRow row).statement = some "a" := by
  decide +kernel

end TableMigration.Column
