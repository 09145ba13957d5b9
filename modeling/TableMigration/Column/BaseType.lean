import TableMigration.Text.Basic
import TableMigration.Text.Case

/-!
# Base types of columns

The column types that have a schema method, and those methods. Integer types have three: plain,
unsigned and counting.
-/

namespace TableMigration

/-- The word that a column type starts with. -/
inductive BaseType where
  | int
  | bigInt
  | mediumInt
  | smallInt
  | tinyInt
  | blob
  | char
  | date
  | dateTime
  | decimal
  | double
  | float
  | longText
  | mediumText
  | tinyText
  | text
  | varchar
  | enum
  | time
  | timestamp
  | json
  /-- A type without a schema method, in lower case. -/
  | unknown (name : String)
deriving DecidableEq, Repr

namespace BaseType

def supported : List (String × BaseType) := [
  ("int", .int), ("bigint", .bigInt), ("mediumint", .mediumInt), ("smallint", .smallInt),
  ("tinyint", .tinyInt), ("blob", .blob), ("char", .char), ("date", .date),
  ("datetime", .dateTime), ("decimal", .decimal), ("double", .double), ("float", .float),
  ("longtext", .longText), ("mediumtext", .mediumText), ("tinytext", .tinyText), ("text", .text),
  ("varchar", .varchar), ("enum", .enum), ("time", .time), ("timestamp", .timestamp),
  ("json", .json)]

/-- The type of a name, in any case. -/
def ofName (name : String) : BaseType :=
  let lowered := Text.lower name
  (supported.lookup lowered).getD (.unknown lowered)

/-- The method of an integer type without more to it. -/
def integerMethod? : BaseType → Option String
  | .int => some "integer"
  | .bigInt => some "bigInteger"
  | .mediumInt => some "mediumInteger"
  | .smallInt => some "smallInteger"
  | .tinyInt => some "tinyInteger"
  | _ => none

structure IntegerMethods where
  plain : String
  unsigned : String
  counting : String
deriving DecidableEq, Repr

/-- The methods of an integer type, named after the plain one. -/
def IntegerMethods.ofPlain (plain : String) : IntegerMethods where
  plain := plain
  unsigned := "unsigned" ++ String.ofList (Text.capitalize plain.toList)
  counting := String.ofList (Text.replaceAll "nteger".toList "ncrements".toList plain.toList)

def integerMethods? (base : BaseType) : Option IntegerMethods :=
  base.integerMethod?.map .ofPlain

/-- The method of a type that has just one. -/
def fixedMethod? : BaseType → Option String
  | .blob => some "binary"
  | .char => some "char"
  | .date => some "date"
  | .dateTime => some "dateTime"
  | .decimal => some "decimal"
  | .double => some "double"
  | .float => some "float"
  | .longText => some "longText"
  | .mediumText => some "mediumText"
  | .tinyText => some "tinyText"
  | .text => some "text"
  | .varchar => some "string"
  | .enum => some "enum"
  | .time => some "time"
  | .timestamp => some "timestamp"
  | .json => some "json"
  | _ => none

end BaseType

end TableMigration
