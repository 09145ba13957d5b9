import TableMigration.Proofs.Php.Default
import TableMigration.Proofs.Statement.Calls

/-!
# Reading the statement of a column

A statement says what its column is called, whether it takes null, its default and its comment, and
a reader who knows the method and the arguments finds all four in it. So columns that differ in one
of them have different statements (`readDetails?_statement`).
-/

namespace TableMigration.Column

open Statement (Call)

/-- What the statement of a column says besides its method and its arguments. -/
structure Details where
  name : String
  nullable : Bool
  default : Option Php.DefaultValue
  comment : String
deriving DecidableEq, Repr

/-- The details are those of a column. A default is given by the text of its argument, and one in
quotes has the value of the trimmed default. -/
structure Details.Of (details : Details) (column : Column) : Prop where
  name : details.name = column.name
  nullable : details.nullable = column.nullable
  default : details.default.map (·.written) =
    column.defaultValue.map (Statement.defaultArgument column.method)
  literal : ∀ text, details.default = some (.text text) →
    column.defaultValue.map Text.trimmed = some text
  comment : details.comment = column.comment

/-- Reads a call of a method off the front of a text, if there is one: its argument, and what
follows the call. -/
def readCall? {α : Type} (method : String) (argument? : List Char → Option (α × List Char))
    (s : List Char) : Option (Option α × List Char) :=
  match Php.take? ("->" ++ method ++ "(") s with
  | none => some (none, s)
  | some inner =>
    match argument? inner with
    | some (value, ')' :: rest) => some (some value, rest)
    | _ => none

/-- Reads the statement of a column whose method and arguments are known. -/
def readDetails? (method : String) (args : ColumnArgs) (statement : String) : Option Details := do
  let s ← Php.take? ("$table->" ++ method ++ "(") statement.toList
  let (name, s) ← Php.readLiteral? s
  let s ← Php.take? (laterArguments method args ++ ")") s
  let (nullable, s) ← readCall? "nullable" (fun s => some ((), s)) s
  let (default, s) ← readCall? "default" Php.readDefault? s
  let (comment, s) ← readCall? "comment" Php.readLiteral? s
  if s = [';'] then
    some { name, nullable := nullable.isSome, default, comment := comment.getD "" }
  else none

/-- The column has a name, and a default that reads as a number if its method is one for
numbers. -/
structure Readable (column : Column) : Prop where
  named : column.name ≠ ""
  numeric : Statement.isNumericMethod column.method = true →
    ∀ default ∈ column.defaultValue, Statement.isNumeric default = true

/-! ### Calls -/

section

variable {α : Type} {argument? : List Char → Option (α × List Char)}

theorem readCall?_cons {method argument : String} {calls : List Call} {value : α}
    (h : argument? (argument.toList ++ ')' :: (Statement.chain calls).toList) =
      some (value, ')' :: (Statement.chain calls).toList)) :
    readCall? method argument? (Statement.chain (⟨method, argument⟩ :: calls)).toList =
      some (some value, (Statement.chain calls).toList) := by
  rw [readCall?, Statement.toList_chain_cons, Php.take?_append]
  simp only [h]

theorem readCall?_other {method : String} {calls : List Call} (name : '(' ∉ method.toList)
    (others : ∀ call ∈ calls, '(' ∉ call.method.toList ∧ call.method ≠ method) :
    readCall? method argument? (Statement.chain calls).toList =
      some (none, (Statement.chain calls).toList) := by
  have absent : Php.take? ("->" ++ method ++ "(") (Statement.chain calls).toList = none := by
    cases calls with
    | nil => simp [Php.take?, Statement.chain, List.isPrefixOf?]
    | cons call calls =>
      obtain ⟨otherName, different⟩ := others call List.mem_cons_self
      have arrow : '(' ∉ "->".toList := by decide
      have shape : (Statement.chain (call :: calls)).toList =
          ("->" ++ call.method).toList ++
            '(' :: (call.argument.toList ++ ')' :: (Statement.chain calls).toList) := by
        rw [Statement.toList_chain_cons]
        simp
      rw [shape]
      refine Php.take?_call_of_ne ?_ ?_ (fun same => different ?_) _
      · simpa [arrow] using name
      · simpa [arrow] using otherName
      · simpa [eq_comm] using same
  rw [readCall?, absent]

end

theorem method_defaultCall {column : Column} {call : Call} (h : call ∈ column.defaultCall) :
    call.method = "default" := by
  unfold defaultCall at h
  split at h
  · rw [List.mem_singleton.mp h]
  · cases h

theorem method_commentCall {column : Column} {call : Call} (h : call ∈ column.commentCall) :
    call.method = "comment" := by
  unfold commentCall at h
  split at h
  · cases h
  · rw [List.mem_singleton.mp h]

/-! ### Parts -/

theorem readCall?_comment (column : Column) :
    ∃ read, readCall? "comment" Php.readLiteral? (Statement.chain column.commentCall).toList =
        some (read, (Statement.chain []).toList) ∧
      read.getD "" = column.comment := by
  rw [commentCall]
  split
  case isTrue empty => exact ⟨none, readCall?_other (by decide) (by simp), empty.symm⟩
  case isFalse => exact ⟨some column.comment, readCall?_cons (Php.readLiteral?_quote _ _), rfl⟩

theorem readCall?_default {column : Column} (h : column.Readable) :
    ∃ read,
      readCall? "default" Php.readDefault?
          (Statement.chain (column.defaultCall ++ column.commentCall)).toList =
        some (read, (Statement.chain column.commentCall).toList) ∧
      read.map (·.written) = column.defaultValue.map (Statement.defaultArgument column.method) ∧
      ∀ text, read = some (.text text) → column.defaultValue.map Text.trimmed = some text := by
  rw [defaultCall]
  cases stored : column.defaultValue with
  | none =>
    refine ⟨none, readCall?_other (by decide) fun call member => ?_, rfl, by simp⟩
    rw [method_commentCall member]
    decide
  | some default =>
    obtain ⟨value, read, written, literal⟩ :=
      Php.exists_readDefault? (fun number => h.numeric number default stored)
        (Statement.chain column.commentCall).toList
    refine ⟨some value, readCall?_cons read, congrArg some written, ?_⟩
    intro text same
    rw [literal text (Option.some.inj same)]
    rfl

theorem readCall?_nullable (column : Column) :
    ∃ read,
      readCall? "nullable" (fun s => some ((), s))
          (Statement.chain (column.nullableCall ++ (column.defaultCall ++ column.commentCall))).toList =
        some (read, (Statement.chain (column.defaultCall ++ column.commentCall)).toList) ∧
      read.isSome = column.nullable := by
  rw [nullableCall]
  split
  case isTrue null => exact ⟨some (), readCall?_cons rfl, null.symm⟩
  case isFalse null =>
    refine ⟨none, readCall?_other (by decide) fun call member => ?_, by simpa using null⟩
    rcases List.mem_append.mp (by simpa using member) with default | comment
    · rw [method_defaultCall default]
      decide
    · rw [method_commentCall comment]
      decide

/-! ### Statements -/

theorem toList_statement {column : Column} (named : column.name ≠ "") :
    column.statement.toList =
      ("$table->" ++ column.method ++ "(").toList ++ ((Statement.quote column.name).toList ++
        ((laterArguments column.method column.args ++ ")").toList ++
          (Statement.chain
            (column.nullableCall ++ (column.defaultCall ++ column.commentCall))).toList)) := by
  rw [statement_eq, calls, String.toList_append, Statement.toList_chain_cons, firstCall]
  simp [named]

theorem exists_readDetails? {column : Column} (h : column.Readable) :
    ∃ details : Details,
      readDetails? column.method column.args column.statement = some details ∧
        details.Of column := by
  obtain ⟨nullable, nullableRead, null⟩ := readCall?_nullable column
  obtain ⟨default, defaultRead, written, literal⟩ := readCall?_default h
  obtain ⟨comment, commentRead, said⟩ := readCall?_comment column
  refine ⟨{ name := column.name, nullable := nullable.isSome, default, comment := comment.getD "" },
    ?_, ⟨rfl, null, written, literal, said⟩⟩
  rw [readDetails?, toList_statement h.named, Php.take?_append]
  simp only [Option.bind_eq_bind, Option.bind_some, Php.readLiteral?_quote, Php.take?_append,
    nullableRead, defaultRead, commentRead]
  exact if_pos rfl

/-- The statement of a column gives back its name, its nullability, its default and its comment to
a reader who knows the method and the arguments, so no two such columns that differ in one of them
share a statement. -/
theorem readDetails?_statement {column : Column} (h : column.Readable) :
    (∃ details : Details,
      readDetails? column.method column.args column.statement = some details ∧
        details.Of column) ∧
    ∀ other : Column, other.Readable → other.method = column.method → other.args = column.args →
      other.statement = column.statement →
        other.name = column.name ∧ other.nullable = column.nullable ∧
          other.defaultValue.map (Statement.defaultArgument other.method) =
            column.defaultValue.map (Statement.defaultArgument column.method) ∧
          other.comment = column.comment := by
  obtain ⟨details, read, of⟩ := exists_readDetails? h
  refine ⟨⟨details, read, of⟩, ?_⟩
  intro other readable method args same
  obtain ⟨details', read', of'⟩ := exists_readDetails? readable
  -- Both columns are read by one reader from one statement.
  obtain rfl : details = details' := by
    rw [method, args, same, read] at read'
    exact Option.some.inj read'
  exact ⟨of'.name.symm.trans of.name, of'.nullable.symm.trans of.nullable,
    of'.default.symm.trans of.default, of'.comment.symm.trans of.comment⟩

theorem readDetails?_statement_price :
    let price : Column :=
      { field := "price"
        name := "it's"
        rawType := "decimal(8,2)"
        method := "decimal"
        args := .list ["8", "2"]
        unsigned := none
        nullable := true
        defaultValue := some " 1.50"
        comment := "');->default(\\" }
    ∃ details : Details,
      readDetails? "decimal" (.list ["8", "2"]) price.statement = some details ∧
        details.name = "it's" ∧ details.nullable = true ∧
        details.default.map (·.written) = some " 1.50" ∧ details.comment = "');->default(\\" := by
  intro price
  have numeric : Statement.isNumeric " 1.50" = true := by decide
  have readable : price.Readable := by
    refine ⟨by decide, fun _ default stored => ?_⟩
    obtain rfl : " 1.50" = default := Option.some.inj stored
    exact numeric
  have written : Statement.defaultArgument "decimal" " 1.50" = " 1.50" := by
    have decimal : Statement.isNumericMethod "decimal" = true := by simp [Statement.isNumericMethod]
    rw [Statement.defaultArgument, if_pos decimal]
  obtain ⟨details, read, of⟩ := (readDetails?_statement readable).1
  exact ⟨details, read, of.name, of.nullable, of.default.trans (congrArg some written), of.comment⟩

end TableMigration.Column
