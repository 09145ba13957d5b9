import TableMigration.Statement

/-!
# Calls of a statement

Every statement is the table with a chain of calls. `Column.statement_eq`, `Index.statement_eq` and
`ForeignKey.statement_eq` give the chains, each call by its method and its argument text.
-/

namespace TableMigration

namespace Statement

structure Call where
  method : String
  argument : String

/-- The calls of a statement one after another, and its end. -/
def chain : List Call → String
  | [] => ";"
  | call :: calls => chained call.method call.argument ++ chain calls

theorem toList_chain_cons (call : Call) (calls : List Call) :
    (chain (call :: calls)).toList =
      ("->" ++ call.method ++ "(").toList ++ (call.argument.toList ++ ')' :: (chain calls).toList) := by
  simp [chain, chained]

end Statement

namespace Column

open Statement (Call)

/-- What stands after the name in the first call. -/
def laterArguments (method : String) (args : ColumnArgs) : String :=
  ((Statement.columnArgs method args).map (", " ++ ·)).getD ""

/-- The call that names the column. -/
def firstCall (column : Column) : Call where
  method := column.method
  argument :=
    if column.name = "" then ""
    else Statement.quote column.name ++ laterArguments column.method column.args

def nullableCall (column : Column) : List Call :=
  if column.nullable then [⟨"nullable", ""⟩] else []

def defaultCall (column : Column) : List Call :=
  match column.defaultValue with
  | some value => [⟨"default", Statement.defaultArgument column.method value⟩]
  | none => []

def commentCall (column : Column) : List Call :=
  if column.comment = "" then [] else [⟨"comment", Statement.quote column.comment⟩]

def calls (column : Column) : List Call :=
  column.firstCall :: (column.nullableCall ++ (column.defaultCall ++ column.commentCall))

theorem chain_nullableCall (column : Column) (calls : List Call) :
    Statement.chain (column.nullableCall ++ calls) =
      (if column.nullable then "->nullable()" else "") ++ Statement.chain calls := by
  rw [nullableCall]
  split
  · rfl
  · simp

theorem chain_defaultCall (column : Column) (calls : List Call) :
    Statement.chain (column.defaultCall ++ calls) =
      (match column.defaultValue with
        | some value => Statement.chained "default" (Statement.defaultArgument column.method value)
        | none => "") ++ Statement.chain calls := by
  rw [defaultCall]
  cases column.defaultValue with
  | some value => rfl
  | none => simp

theorem chain_commentCall (column : Column) :
    Statement.chain column.commentCall =
      (if column.comment = "" then ""
        else Statement.chained "comment" (Statement.quote column.comment)) ++ ";" := by
  rw [commentCall]
  split
  · simp [Statement.chain]
  · rfl

theorem chained_firstCall (column : Column) :
    Statement.chained column.firstCall.method column.firstCall.argument =
      "->" ++ column.method ++
        (if column.name = "" then "()"
         else
          "(" ++ Statement.quote column.name ++
            laterArguments column.method column.args ++ ")") := by
  apply String.toList_inj.mp
  by_cases named : column.name = "" <;> simp [Statement.chained, firstCall, named]

theorem statement_eq (column : Column) :
    column.statement = "$table" ++ Statement.chain column.calls := by
  have opening : "$table->" = "$table" ++ "->" := rfl
  rw [calls, Statement.chain, chain_nullableCall, chain_defaultCall, chain_commentCall,
    chained_firstCall]
  unfold statement laterArguments
  cases column.defaultValue <;> simp only [opening, String.append_assoc]

end Column

namespace Index

def call (index : Index) : Statement.Call :=
  if index.name = primaryName then ⟨"primary", Statement.arguments index.columns⟩
  else
    { method := if index.unique then "unique" else "index"
      argument := Statement.arguments index.columns ++ ", " ++ Statement.quote index.name }

theorem statement_eq (index : Index) :
    index.statement = "$table" ++ Statement.chain [index.call] := by
  apply String.toList_inj.mp
  rw [statement, call]
  by_cases primary : index.name = primaryName <;> cases index.unique <;>
    simp [primary, Statement.chain, Statement.chained]

end Index

namespace ForeignKey

def calls (key : ForeignKey) : List Statement.Call := [
  ⟨"foreign", Statement.arguments [key.localColumn] ++ ", " ++ Statement.quote key.name⟩,
  ⟨"references", Statement.quote key.referencedColumn⟩,
  ⟨"on", Statement.quote key.referencedTable⟩,
  ⟨"onDelete", Statement.quote key.onDelete⟩,
  ⟨"onUpdate", Statement.quote key.onUpdate⟩]

theorem statement_eq (key : ForeignKey) :
    key.statement = "$table" ++ Statement.chain key.calls := by
  have opening : "$table->foreign(" = "$table" ++ ("->" ++ ("foreign" ++ "(")) := rfl
  unfold statement calls
  simp only [opening, Statement.chain, Statement.chained, String.append_assoc]

end ForeignKey

end TableMigration
