import TableMigration.Proofs.Text.OneLine
import TableMigration.Statement

/-!
# Statements on one line

Writing a statement puts no line feed into it. `Column.OneLine.statement`, `Index.OneLine.statement`
and `ForeignKey.OneLine.statement` say so for the three kinds.
-/

namespace TableMigration

namespace Statement

/-! ### Arguments -/

theorem oneLine_quote {s : String} (h : Text.OneLine s) : Text.OneLine (quote s) := by
  have inside : '\n' ∉ s.toList.flatMap quoteChar := by
    rw [List.mem_flatMap]
    rintro ⟨c, member, written⟩
    have other : '\n' ≠ c := fun same => h (same ▸ member)
    rw [quoteChar] at written
    split at written
    · exact absurd written (by decide)
    · split at written
      · exact absurd written (by decide)
      · exact other (List.mem_singleton.mp written)
  exact (Text.OneLine.append (by decide) (Text.oneLine_ofList.mpr inside)).append (by decide)

theorem oneLine_argument {s : String} (h : Text.OneLine s) : Text.OneLine (argument s) := by
  rw [argument]
  split
  · exact h
  · exact oneLine_quote h

theorem oneLine_bracketed {items : List String} (h : ∀ item ∈ items, Text.OneLine item) :
    Text.OneLine (bracketed items) :=
  (Text.OneLine.append (by decide) (Text.OneLine.intercalate (by decide) h)).append (by decide)

theorem oneLine_arguments {names : List String} (h : ∀ name ∈ names, Text.OneLine name) :
    Text.OneLine (arguments names) := by
  have items : ∀ item ∈ names.map argument, Text.OneLine item :=
    List.forall_mem_map.mpr fun name member => oneLine_argument (h name member)
  rw [arguments]
  split
  · exact oneLine_bracketed items
  · exact Text.OneLine.intercalate (by decide) items

theorem mem_of_mem_unescapeEnum {c : Char} {s : List Char} (h : c ∈ unescapeEnum s) : c ∈ s := by
  fun_induction unescapeEnum s <;> grind

theorem mem_of_insideQuotes? {s inner : List Char} (found : insideQuotes? s = some inner) {c : Char}
    (h : c ∈ inner) : c ∈ s := by
  rw [insideQuotes?.eq_def] at found
  split at found
  · rename_i rest
    split at found
    · rw [← Option.some.inj found] at h
      exact List.mem_cons_of_mem _ (List.dropLast_subset rest h)
    · cases found
  · cases found

theorem oneLine_enumValue {raw : String} (h : Text.OneLine raw) : Text.OneLine (enumValue raw) := by
  rw [enumValue]
  split
  · rename_i inner found
    exact oneLine_quote (Text.oneLine_ofList.mpr fun member =>
      h (mem_of_insideQuotes? found (mem_of_mem_unescapeEnum member)))
  · exact h

theorem oneLine_columnArgs {method : String} {args : ColumnArgs}
    (h : ∀ value ∈ args.values, Text.OneLine value) {text : String}
    (written : columnArgs method args = some text) : Text.OneLine text := by
  rw [columnArgs.eq_def] at written
  split at written
  · rw [← Option.some.inj written]
    exact oneLine_bracketed (List.forall_mem_map.mpr fun value member =>
      oneLine_enumValue (h value member))
  · split at written
    · cases written
    · rw [← Option.some.inj written]
      exact h _ List.mem_cons_self
    · rw [← Option.some.inj written]
      exact h _ List.mem_cons_self
    · rw [← Option.some.inj written]
      exact oneLine_bracketed h

theorem oneLine_defaultArgument (method : String) {default : String} (h : Text.OneLine default) :
    Text.OneLine (defaultArgument method default) := by
  rw [defaultArgument]
  split
  · exact h
  · split
    · split <;> decide
    · split
      · decide
      · exact oneLine_quote h.trim

theorem oneLine_chained {method argument : String} (hm : Text.OneLine method)
    (ha : Text.OneLine argument) : Text.OneLine (chained method argument) :=
  (((Text.OneLine.append (by decide) hm).append (by decide)).append ha).append (by decide)

end Statement

/-! ### Statements -/

/-- The texts of a column that its statement shows have no line feed. -/
structure Column.OneLine (column : Column) : Prop where
  name : Text.OneLine column.name
  method : Text.OneLine column.method
  args : ∀ value ∈ column.args.values, Text.OneLine value
  defaultValue : ∀ value ∈ column.defaultValue, Text.OneLine value
  comment : Text.OneLine column.comment

theorem Column.OneLine.statement {column : Column} (h : column.OneLine) :
    Text.OneLine column.statement := by
  have call : Text.OneLine (if column.name = "" then "()" else
      "(" ++ Statement.quote column.name ++
        ((Statement.columnArgs column.method column.args).map (", " ++ ·)).getD "" ++ ")") := by
    split
    · decide
    · have args : Text.OneLine
          (((Statement.columnArgs column.method column.args).map (", " ++ ·)).getD "") := by
        cases written : Statement.columnArgs column.method column.args with
        | none => decide
        | some text => exact .append (by decide) (Statement.oneLine_columnArgs h.args written)
      exact ((Text.OneLine.append (by decide) (Statement.oneLine_quote h.name)).append args).append
        (by decide)
  have null : Text.OneLine (if column.nullable then "->nullable()" else "") := by
    split <;> decide
  have default : ∀ value ∈ column.defaultValue, Text.OneLine
      (Statement.chained "default" (Statement.defaultArgument column.method value)) :=
    fun value given => Statement.oneLine_chained (by decide)
      (Statement.oneLine_defaultArgument _ (h.defaultValue value given))
  have comment : Text.OneLine (if column.comment = "" then "" else
      Statement.chained "comment" (Statement.quote column.comment)) := by
    split
    · decide
    · exact Statement.oneLine_chained (by decide) (Statement.oneLine_quote h.comment)
  have start : Text.OneLine ("$table->" ++ column.method) := .append (by decide) h.method
  rw [Column.statement]
  refine ((((start.append call).append null).append ?_).append comment).append (by decide)
  split
  · exact default _ ‹_›
  · decide

/-- The texts of an index have no line feed. -/
structure Index.OneLine (index : Index) : Prop where
  name : Text.OneLine index.name
  columns : ∀ column ∈ index.columns, Text.OneLine column

theorem Index.OneLine.statement {index : Index} (h : index.OneLine) :
    Text.OneLine index.statement := by
  have columns := Statement.oneLine_arguments h.columns
  have name := Statement.oneLine_quote h.name
  have kind : Text.OneLine (if index.unique then "unique" else "index") := by
    split <;> decide
  rw [Index.statement]
  split
  · exact (Text.OneLine.append (by decide) columns).append (by decide)
  · have call := ((Text.OneLine.append (s := "$table->") (by decide) kind).append
      (t := "(") (by decide)).append columns
    exact ((call.append (by decide)).append name).append (by decide)

/-- The texts of a foreign key have no line feed. -/
structure ForeignKey.OneLine (key : ForeignKey) : Prop where
  name : Text.OneLine key.name
  localColumn : Text.OneLine key.localColumn
  referencedTable : Text.OneLine key.referencedTable
  referencedColumn : Text.OneLine key.referencedColumn
  onUpdate : Text.OneLine key.onUpdate
  onDelete : Text.OneLine key.onDelete

theorem ForeignKey.OneLine.statement {key : ForeignKey} (h : key.OneLine) :
    Text.OneLine key.statement := by
  have columns : Text.OneLine (Statement.arguments [key.localColumn]) :=
    Statement.oneLine_arguments (by simpa using h.localColumn)
  have call := (((Text.OneLine.append (s := "$table->foreign(") (by decide) columns).append
    (t := ", ") (by decide)).append (Statement.oneLine_quote h.name)).append (t := ")") (by decide)
  have chained : ∀ {method text : String}, Text.OneLine method →
      Text.OneLine text →
        Text.OneLine (Statement.chained method (Statement.quote text)) :=
    fun hm ht => Statement.oneLine_chained hm (Statement.oneLine_quote ht)
  exact ((((call.append (chained (by decide) h.referencedColumn)).append
    (chained (by decide) h.referencedTable)).append (chained (by decide) h.onDelete)).append
      (chained (by decide) h.onUpdate)).append (by decide)

end TableMigration
