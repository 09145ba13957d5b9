import TableMigration.Document.Value

/-!
# Tables of a document

Putting the lines of a document together. A key may be given once, a table may be opened by one
header, and a dotted key reaches only tables that no header or braces have opened.
-/

namespace TableMigration.Document

inductive Line where
  /-- A value under a key, with the tables on the way to it. -/
  | entry (path : List String) (key : String) (value : Value)
  | header (path : List String) (key : String)
  /-- The header of the next of several tables. -/
  | element (path : List String) (key : String)

def replace (key : String) (value : Value) (entries : Entries) : Entries :=
  entries.map fun entry => if entry.1 = key then (key, value) else entry

def changeLast? {α : Type} (change : α → Option α) : List α → Option (List α)
  | [] => none
  | [a] => (change a).map ([·])
  | a :: rest => (changeLast? change rest).map (a :: ·)

/-- Puts a value under a dotted key. The table that holds it must have been opened by such keys
alone. -/
def assign (key : String) (value : Value) : List String → Entries → Option Entries
  | [], entries =>
    if entries.any (·.1 == key) then none else some (entries ++ [(key, value)])
  | step :: path, entries =>
    match entries.lookup step with
    | none =>
      (assign key value path []).map fun inner => entries ++ [(step, .table .wayToKey inner)]
    | some (.table .wayToKey inner) =>
      (assign key value path inner).map fun inner =>
        replace step (.table .wayToKey inner) entries
    | some (.table .wayToHeader inner) =>
      if path.isEmpty then none
      else
        (assign key value path inner).map fun inner =>
          replace step (.table .wayToHeader inner) entries
    | some (.tables elements) =>
      if path.isEmpty then none
      else
        (changeLast? (assign key value path) elements).map fun elements =>
          replace step (.tables elements) entries
    | some _ => none

/-- Changes the table that a header names; of several tables, the last. -/
def within (change : Entries → Option Entries) : List String → Entries → Option Entries
  | [], entries => change entries
  | step :: path, entries =>
    match entries.lookup step with
    | none =>
      (within change path []).map fun inner => entries ++ [(step, .table .wayToHeader inner)]
    | some (.table .braces _) => none
    | some (.table opening inner) =>
      (within change path inner).map fun inner => replace step (.table opening inner) entries
    | some (.tables elements) =>
      (changeLast? (within change path) elements).map fun elements =>
        replace step (.tables elements) entries
    | some _ => none

/-- Opens a table by its header. It may have been on the way to another header before. -/
def openTable (key : String) (entries : Entries) : Option Entries :=
  match entries.lookup key with
  | none => some (entries ++ [(key, .table .header [])])
  | some (.table .wayToHeader inner) => some (replace key (.table .header inner) entries)
  | some _ => none

def openElement (key : String) (entries : Entries) : Option Entries :=
  match entries.lookup key with
  | none => some (entries ++ [(key, .tables [[]])])
  | some (.tables elements) => some (replace key (.tables (elements ++ [[]])) entries)
  | some _ => none

/-- A document whose lines so far have been put together. -/
structure Draft where
  /-- The path of the table that keys go into. -/
  place : List String
  entries : Entries

def Draft.add (draft : Draft) : Line → Option Draft
  | .entry path key value =>
    (within (assign key value path) draft.place draft.entries).map fun entries =>
      { draft with entries }
  | .header path key =>
    (within (openTable key) path draft.entries).map fun entries =>
      { place := path ++ [key], entries }
  | .element path key =>
    (within (openElement key) path draft.entries).map fun entries =>
      { place := path ++ [key], entries }

def ofLines (lines : List Line) : Option Entries :=
  (lines.foldlM Draft.add { place := [], entries := [] }).map (·.entries)

/-- The entries between braces. -/
def ofAssignments (lines : List (List String × String × Value)) : Option Entries :=
  lines.foldlM (fun entries line => assign line.2.1 line.2.2 line.1 entries) []

end TableMigration.Document
