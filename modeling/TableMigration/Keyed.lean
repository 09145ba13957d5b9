/-!
# Lists by key

A list in which a later element takes the place of the earlier one with its key.
-/

namespace TableMigration.Keyed

variable {α κ : Type} [DecidableEq κ]

/-- Puts an element over the first one of its key, or at the end. -/
def put (key : α → κ) (a : α) : List α → List α
  | [] => [a]
  | b :: rest => if key b = key a then a :: rest else b :: put key a rest

/-- Puts the elements of a list one after another. -/
def ofList (key : α → κ) (elements : List α) : List α :=
  elements.foldl (fun kept a => put key a kept) []

/-- Changes the first element of a key. -/
def updateFirst (key : α → κ) (k : κ) (change : α → α) : List α → List α
  | [] => []
  | b :: rest => if key b = k then change b :: rest else b :: updateFirst key k change rest

end TableMigration.Keyed
