/-!
# Documents

The values of a TOML document. A table remembers how it was opened, which decides what may still
be added to it. Fractions and moments are recognised but not kept.
-/

namespace TableMigration.Document

inductive Opening where
  /-- In braces: it is complete. -/
  | braces
  | header
  /-- On the way to the header of a table inside it. -/
  | wayToHeader
  /-- On the way to a key inside it. -/
  | wayToKey
deriving DecidableEq, Repr

inductive Value where
  | string (text : String)
  | integer (n : Int)
  | fraction
  | boolean (b : Bool)
  | moment
  | array (items : List Value)
  | table (opening : Opening) (entries : List (String × Value))
  /-- Tables that share one header. -/
  | tables (elements : List (List (String × Value)))

abbrev Entries := List (String × Value)

end TableMigration.Document
