import TableMigration.ForeignKey
import TableMigration.Statement.Literal

/-!
# Statements

The statement of a migration for each column, index and foreign key, and blocks of statements.
-/

namespace TableMigration

namespace Statement

/-- A value of an enumeration without the escapes of its quoted form: a doubled quote is one
quote, and a backslash stands for the character after it. -/
def unescapeEnum : List Char → List Char
  | [] => []
  | '\'' :: '\'' :: rest => '\'' :: unescapeEnum rest
  | ['\\'] => []
  | '\\' :: c :: rest => c :: unescapeEnum rest
  | c :: rest => c :: unescapeEnum rest

/-- What stands between the quotes of a text that starts and ends with one. -/
def insideQuotes? : List Char → Option (List Char)
  | '\'' :: rest => if rest.getLast? = some '\'' then some rest.dropLast else none
  | _ => none

/-- A value of an enumeration: a quoted one anew in quotes, any other as it is. -/
def enumValue (raw : String) : String :=
  match insideQuotes? raw.toList with
  | some inner => quote (String.ofList (unescapeEnum inner))
  | none => raw

/-- The arguments after the name of a column: several in brackets, values of an enumeration
always. -/
def columnArgs (method : String) (args : ColumnArgs) : Option String :=
  if method = "enum" then some (bracketed (args.values.map enumValue))
  else
    match args with
    | .none => none
    | .scalar value => some value
    | .list [value] => some value
    | .list values => some (bracketed values)

/-- A method for numbers: an integer method, or one of three others. -/
def isNumericMethod (method : String) : Bool :=
  Text.contains (Text.lower method) "integer" ||
    method == "decimal" || method == "double" || method == "float"

/-- The text says the current time, in any case of ASCII letters. -/
def saysNow (text : List Char) : Bool :=
  text.map Char.toLower == "current_timestamp".toList

/-- The default of a column: a number as it is, a truth value, the current time, or a text in
quotes. -/
def defaultArgument (method default : String) : String :=
  let text := Text.trim default.toList
  if isNumericMethod method then default
  else if method = "boolean" then
    if text.isEmpty || text == ['0'] then "false" else "true"
  else if saysNow text then "\\DB::raw('CURRENT_TIMESTAMP')"
  else quote (String.ofList text)

/-- A call with one argument at the end of a statement. -/
def chained (method argument : String) : String :=
  "->" ++ method ++ "(" ++ argument ++ ")"

/-- Statements one a line, each but the first with `indent` spaces before it, without blanks at
either end. -/
def block (indent : Nat) (statements : List String) : String :=
  Text.trimmed (("\n" ++ "".pushn ' ' indent).intercalate statements) ++ "\n"

end Statement

def Column.statement (column : Column) : String :=
  "$table->" ++ column.method ++
    (if column.name = "" then "()"
     else
       "(" ++ Statement.quote column.name ++
         ((Statement.columnArgs column.method column.args).map (", " ++ ·)).getD "" ++ ")") ++
    (if column.nullable then "->nullable()" else "") ++
    (match column.defaultValue with
     | some value => Statement.chained "default" (Statement.defaultArgument column.method value)
     | none => "") ++
    (if column.comment = "" then ""
     else Statement.chained "comment" (Statement.quote column.comment)) ++
    ";"

def Index.statement (index : Index) : String :=
  let columns := Statement.arguments index.columns
  if index.name = primaryName then "$table->primary(" ++ columns ++ ");"
  else
    "$table->" ++ (if index.unique then "unique" else "index") ++ "(" ++ columns ++ ", " ++
      Statement.quote index.name ++ ");"

def ForeignKey.statement (key : ForeignKey) : String :=
  "$table->foreign(" ++ Statement.arguments [key.localColumn] ++ ", " ++
    Statement.quote key.name ++ ")" ++
    Statement.chained "references" (Statement.quote key.referencedColumn) ++
    Statement.chained "on" (Statement.quote key.referencedTable) ++
    Statement.chained "onDelete" (Statement.quote key.onDelete) ++
    Statement.chained "onUpdate" (Statement.quote key.onUpdate) ++ ";"

end TableMigration
